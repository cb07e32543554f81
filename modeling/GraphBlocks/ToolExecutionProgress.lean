import GraphBlocks.ToolExecutionSafety

namespace GraphBlocks.ToolExecution
open Std Json DependencyOrder MachineRuns OrderedMap List Option Std.ExtTreeMap

/-- No pending call waits for a call that ended without a result. -/
def Closed (p:ToolExecutionPlan) : Prop :=
 ∀(id:String) (planned:ToolPlanCall),p.calls[id]?=some planned →
  p.states[id]?=some .pending→isBlocked p.states planned=false

variable {p:ToolExecutionPlan}

lemma closed_of_no_blockedIds(h:blockedIds p.calls p.states=[]):Closed p:=by
 intro id planned hcall hpending
 by_contra hblocked
 have hmem:id∈blockedIds p.calls p.states:=
  mem_blockedIds.mpr ⟨hpending,planned,hcall,by simpa using hblocked⟩
 rw [h] at hmem
 cases hmem

lemma closed_of_no_pending(h:∀id:String,p.states[id]?≠some .pending):Closed p:=by
 intro id _ _ hpending
 exact absurd hpending (h id)

variable {calls:Calls} {states:States} {blockedState:ToolExecutionState}

lemma pending_insertAll(hstate:blockedState ≠ .pending)(h:blockedIds calls states≠[]):
  (idsWith (insertAll states (blockedIds calls states) blockedState) .pending).length <
   (idsWith states .pending).length:=by
 obtain ⟨first,hfirst⟩:=exists_mem_of_ne_nil _ h
 have hkept:∀id∈idsWith (insertAll states (blockedIds calls states) blockedState) .pending,
   id∉blockedIds calls states∧states[id]?=some .pending:=by
  intro id hid
  rw [mem_idsWith,lookup_insertAll] at hid
  split at hid
  · exact absurd (some.inj hid) hstate
  · next hnot=>exact ⟨hnot,hid⟩
 have hsubset:first::idsWith (insertAll states (blockedIds calls states) blockedState)
   .pending ⊆ idsWith states .pending:=by
  intro id hid
  rw [mem_idsWith]
  rcases mem_cons.mp hid with rfl|hid
  · exact (mem_blockedIds.mp hfirst).1
  · exact (hkept id hid).2
 have hnodup:(first::idsWith (insertAll states (blockedIds calls states) blockedState)
   .pending).Nodup:=by
  refine nodup_cons.mpr ⟨?_,nodup_idsWith _ _⟩
  intro hmem
  exact (hkept first hmem).1 hfirst
 exact (subperm_of_subset hnodup hsubset).length_le

lemma markLoop_done(hstate:blockedState ≠ .pending){rounds:ℕ}
  (h:(idsWith states .pending).length≤rounds):
  blockedIds calls (markLoop calls blockedState rounds states)=[]:=by
 induction rounds generalizing states with
 | zero=>
  apply eq_nil_iff_forall_not_mem.mpr
  intro id hid
  have hmem:=mem_idsWith.mpr (mem_blockedIds.mp hid).1
  rw [markLoop,eq_nil_of_length_eq_zero (Nat.le_zero.mp h)] at hmem
  cases hmem
 | succ rounds ih=>
  rw [markLoop]
  split
  · next hnone=>exact hnone
  · next hsome=>
    apply ih
    have hlt:=pending_insertAll hstate hsome
    omega

lemma closed_markBlockedDependents(hstate:blockedState ≠ .pending)(p:ToolExecutionPlan):
  Closed (markBlockedDependents p blockedState):=by
 apply closed_of_no_blockedIds
 apply markLoop_done hstate
 rw [idsWith,length_map,←ExtTreeMap.length_toList]
 exact length_filter_le _ _

variable {id:String} {state:ToolExecutionState}

lemma markLoop_keeps(hstate:state ≠ .pending)(rounds:ℕ)(h:states[id]?=some state):
  (markLoop calls blockedState rounds states)[id]?=some state:=by
 induction rounds generalizing states with
 | zero=>exact h
 | succ rounds ih=>
  rw [markLoop]
  split
  · exact h
  · apply ih
    rw [lookup_insertAll,if_neg]
    · exact h
    · intro hid
      rw [(mem_blockedIds.mp hid).1] at h
      exact hstate (some.inj h).symm

lemma closed_rewriteStates{condition:ToolExecutionState→Bool}(h:condition .pending=true)
  (p:ToolExecutionPlan):Closed (rewriteStates p condition .cancelled):=by
 apply closed_of_no_pending
 intro id hid
 simp only [rewriteStates,ExtTreeMap.getElem?_map] at hid
 obtain ⟨state,_,hpending⟩:=map_eq_some_iff.mp hid
 split at hpending
 · cases hpending
 · next hcondition=>
   rw [hpending] at hcondition
   exact hcondition h

lemma closed_afterFailure(p:ToolExecutionPlan):Closed (afterFailure p):=by
 simp only [afterFailure]
 split
 · exact closed_rewriteStates rfl _
 · exact closed_markBlockedDependents (by decide) p

lemma closed_afterCancellation(p:ToolExecutionPlan):Closed (afterCancellation p):=by
 rw [afterCancellation]
 split
 · exact closed_markBlockedDependents (by decide) p
 · exact closed_rewriteStates rfl p
 · exact closed_markBlockedDependents (by decide) p

section
variable {p:ToolExecutionPlan}

lemma Closed.withState(h:Closed p)(hpending:state ≠ .pending)(hblocking:state.isBlocking=false):
  Closed (withState p id state):=by
 intro j planned hcall hj
 simp only [ToolExecution.withState,lookup_insert] at hj
 split at hj
 · exact absurd (some.inj hj) hpending
 · have hfree:=h j planned hcall hj
   rw [isBlocked,List.any_eq_false] at hfree ⊢
   intro d hd
   simp only [ToolExecution.withState,lookup_insert]
   split
   · simp [hblocking]
   · exact hfree d hd

lemma Closed.andThen{out:Except ToolExecutionPlanError Unit×ToolExecutionPlan}
  {rewrite:ToolExecutionPlan→ToolExecutionPlan}(h:Closed p)(hout:EndsOrFails p out)
  (hrewrite:∀p,Closed (rewrite p)):Closed (answered (andThen out rewrite)).2:=by
 rcases hout with ⟨e,rfl⟩|⟨hok,_⟩
 · exact h
 · obtain ⟨result,middle⟩:=out
   cases hok
   exact hrewrite middle

lemma Closed.applyPolicyStop(h:Closed p)(pendingToolCalls:PendingToolCallsDisposition):
  Closed (applyPolicyStop p pendingToolCalls).2:=by
 have hpending:∀id:String,pendingToolCalls ≠ .keep →
   (ToolExecution.applyPolicyStop p pendingToolCalls).2.states[id]?≠some .pending:=by
  intro id hkeep hid
  simp only [ToolExecution.applyPolicyStop,ExtTreeMap.getElem?_map] at hid
  obtain ⟨state,_,hstate⟩:=map_eq_some_iff.mp hid
  cases pendingToolCalls with
  | keep=>exact hkeep rfl
  | deny=>cases state <;>cases hstate
  | cancelAdmitted=>
   simp only [stoppedState] at hstate
   split_ifs at hstate with hrunning hcancel hpend
   · cases hstate
   · rw [hrunning] at hstate
     cases hstate
   · cases hstate
   · exact hpend hstate
 cases pendingToolCalls with
 | keep=>
  have hsame:(ToolExecution.applyPolicyStop p .keep).2=p:=by
   have hstates:(p.states.map fun _ state=>state)=p.states:=by
    apply ExtTreeMap.ext_getElem?
    intro id
    simp
   simp only [ToolExecution.applyPolicyStop,stoppedState,getD_none,hstates]
  rw [hsame]
  exact h
 | deny=>exact closed_of_no_pending fun id=>hpending id (by decide)
 | cancelAdmitted=>exact closed_of_no_pending fun id=>hpending id (by decide)

lemma Closed.step(h:Closed p)(call:PlanCall):Closed (planStep p call).2:=by
 cases call with
 | recordStarted id=>
  simp only [planStep]
  rcases recordStarted_cases p id with ⟨e,hfail⟩|⟨planned,_,hok⟩
  · rw [hfail]
    exact h
  · rw [hok]
    exact Closed.withState h (by decide) rfl
 | recordCompleted id=>
  simp only [planStep,recordCompleted,enterTerminal]
  split
  · exact h
  · split
    · exact h
    · exact Closed.withState h (by decide) rfl
 | recordFailed id=>exact Closed.andThen h (enterTerminal_ends rfl) closed_afterFailure
 | recordDenied id=>
  exact Closed.andThen h (enterPendingTerminal_ends rfl)
   (closed_markBlockedDependents (by decide))
 | recordExpired id=>
  exact Closed.andThen h (enterPendingTerminal_ends rfl)
   (closed_markBlockedDependents (by decide))
 | recordCancelled id=>exact Closed.andThen h (enterTerminal_ends rfl) closed_afterCancellation
 | recordPolicyStopped id=>
  exact Closed.andThen h (enterTerminal_ends rfl) (closed_markBlockedDependents (by decide))
 | applyPolicyStop pendingToolCalls=>exact Closed.applyPolicyStop h pendingToolCalls
 | withFailurePolicy policy=>exact h
 | withCancellationPolicy policy=>exact h
end

lemma closed_new{d:StringDisplay}{sha256:List Char→String}{planId responseId:String}
  {calls:List ToolPlanCall}{maximumParallelism:ℕ}{plan:ToolExecutionPlan}
  (h:ToolExecutionPlan.new d sha256 planId responseId calls maximumParallelism=.ok plan):
  Closed plan:=by
 intro id planned _ _
 rw [isBlocked,List.any_eq_false]
 intro dep _
 cases hdep:plan.states[dep]? with
 | none=>simp
 | some state=>
  rw [new_pending h hdep]
  simp [ToolExecutionState.isBlocking]

section
variable {p:ToolExecutionPlan}

/-- The entry of a call that could start if a slot and its effect key are free. -/
def Eligible (p:ToolExecutionPlan) (e:String×ToolPlanCall) : Prop :=
 p.states[e.1]?=some .pending∧dependenciesCompleted p e.2.call=true

variable {l:List (String×ToolPlanCall)} {slots:ℕ}

lemma readyLoop_ne_nil(hslots:slots≠0){e:String×ToolPlanCall}(he:e∈l)(heligible:Eligible p e):
  readyLoop p l slots []≠[]:=by
 induction l with
 | nil=>cases he
 | cons first l ih=>
  obtain ⟨id,planned⟩:=first
  rw [readyLoop,if_neg hslots]
  split_ifs with hpending hdeps hkey
  · rcases mem_cons.mp he with rfl|he
    · exact absurd heligible.1 hpending
    · exact ih he
  · rcases mem_cons.mp he with rfl|he
    · simp [heligible.2] at hdeps
    · exact ih he
  · exact ih (by
     rcases mem_cons.mp he with rfl|he
     · cases hkeyed:planned.effectKey with
       | none=>simp [hkeyed] at hkey
       | some key=>simp [hkeyed] at hkey
     · exact he)
  · exact cons_ne_nil _ _

lemma ready_of_idle(hsafe:Safe p)(hclosed:Closed p)(hidle:∀id:String,p.states[id]?≠some .running)
  (hid:p.states[id]?=some .pending):readyCallIds p≠[]:=by
 obtain ⟨rank,hrank,_⟩:=hsafe.sound.ranked
 obtain ⟨first,hfirst,hdeps⟩:=exists_minimal hrank (p:=fun id=>p.states[id]?=some .pending) hid
 obtain ⟨planned,hcall⟩:∃planned,p.calls[first]?=some planned:=by
  rw [←isSome_iff_exists,←hsafe.keys,hfirst]
  rfl
 have hcompleted:dependenciesCompleted p planned.call=true:=by
  rw [dependenciesCompleted,List.all_eq_true]
  intro d hd
  have hd':d∈dependencies p.calls first:=by
   rw [dependencies_of_call hcall]
   exact hd
  obtain ⟨dep,hdep⟩:=hsafe.sound.known first d hd'
  obtain ⟨state,hstate⟩:∃state,p.states[d]?=some state:=by
   rw [←isSome_iff_exists,hsafe.keys,hdep]
   rfl
  have hfree:=hclosed first planned hcall hfirst
  rw [isBlocked,List.any_eq_false] at hfree
  have hunblocked:=hfree d hd
  have hnotPending:=hdeps d hd'
  have hnotRunning:=hidle d
  rw [hstate] at hunblocked hnotPending hnotRunning ⊢
  cases state <;>simp_all [ToolExecutionState.isBlocking]
 have hnone:runningIds p.states=[]:=by
  apply eq_nil_iff_forall_not_mem.mpr
  intro j hj
  exact hidle j (mem_runningIds.mp hj)
 have hcount:runningCount p=0:=by
  rw [←length_runningIds,hnone]
  rfl
 have hpositive:=hsafe.sound.positive
 rw [readyCallIds,hcount,if_neg (by omega),runningEffectKeys,hnone]
 exact readyLoop_ne_nil (by omega) (mem_toList_iff_getElem?_eq_some.mpr hcall)
  ⟨hfirst,hcompleted⟩

def SharesNoKey (calls:Calls) (a b:String) : Prop :=
 ∀key,effectKeyOf calls a=some key→effectKeyOf calls b≠some key

instance (calls:Calls) : Symm (SharesNoKey calls) := by
 constructor
 intro a b h key hb ha
 exact h key ha hb

/-- Calls that can be started one after another. -/
structure AllStartable (p:ToolExecutionPlan) (ids:List String) : Prop where
 nodup:ids.Nodup
 eligible:∀id∈ids,∃planned,p.calls[id]?=some planned∧Eligible p (id,planned)
 slots:ids.length+runningCount p≤p.maximumParallelism
 free:∀id∈ids,∀key,effectKeyOf p.calls id=some key→key∉runningEffectKeys p
 apart:ids.Pairwise (SharesNoKey p.calls)

variable {ids:List String}

lemma AllStartable.perm{ids':List String}(h:AllStartable p ids)(hperm:ids'.Perm ids):
  AllStartable p ids':=by
 constructor
 · exact hperm.nodup_iff.mpr h.nodup
 · intro id hid
   exact h.eligible id (hperm.mem_iff.mp hid)
 · rw [hperm.length_eq]
   exact h.slots
 · intro id hid
   exact h.free id (hperm.mem_iff.mp hid)
 · exact (hperm.pairwise_iff (fun hab=>symm hab)).mpr h.apart

lemma AllStartable.first(h:AllStartable p (id::ids)):∃planned,Startable p id planned:=by
 obtain ⟨planned,hcall,hpending,hdeps⟩:=h.eligible id mem_cons_self
 have hslots:=h.slots
 rw [length_cons] at hslots
 refine ⟨planned,hcall,hpending,hdeps,by omega,?_⟩
 intro key hkey
 apply h.free id mem_cons_self
 simp [effectKeyOf,hcall,hkey]

lemma AllStartable.rest(h:AllStartable p (id::ids)):AllStartable (withState p id .running) ids:=by
 obtain ⟨planned,hstart⟩:=h.first
 have hnodup:=nodup_cons.mp h.nodup
 have hapart:=pairwise_cons.mp h.apart
 constructor
 · exact hnodup.2
 · intro j hj
   obtain ⟨other,hcall,hpending,hdeps⟩:=h.eligible j (mem_cons_of_mem _ hj)
   have hne:id≠j:=by
    rintro rfl
    exact hnodup.1 hj
   refine ⟨other,hcall,?_,?_⟩
   · exact (lookup_insert_ne _ _ hne).trans hpending
   · rw [dependenciesCompleted,List.all_eq_true] at hdeps ⊢
     intro d hd
     have hdone:p.states[d]?=some .completed:=by simpa using hdeps d hd
     rw [(completed_started hstart).mpr hdone]
     rfl
 · have hslots:=h.slots
   have hcount:=runningCount_started_le p id
   rw [length_cons] at hslots
   change ids.length+runningCount (withState p id .running)≤p.maximumParallelism
   omega
 · intro j hj key hkey hmem
   obtain ⟨other,hother,hotherKey⟩:=mem_runningEffectKeys.mp hmem
   rcases running_started.mp hother with rfl|hother
   · exact hapart.1 j hj key hotherKey hkey
   · exact h.free j (mem_cons_of_mem _ hj) key hkey
      (mem_runningEffectKeys.mpr ⟨other,hother,hotherKey⟩)
 · exact hapart.2

lemma AllStartable.started(h:AllStartable p ids):
  ∀t∈history planStep p (ids.map PlanCall.recordStarted),t.response=.ok .done:=by
 induction ids generalizing p with
 | nil=>simp [history]
 | cons id ids ih=>
  obtain ⟨planned,hstart⟩:=h.first
  have hstep:planStep p (.recordStarted id)=(.ok .done,withState p id .running):=by
   rw [planStep,recordStarted_ok hstart]
   rfl
  intro t ht
  rw [map_cons,history,takeStep,hstep] at ht
  rcases mem_cons.mp ht with rfl|ht
  · rfl
  · exact ih h.rest t ht

lemma readyLoop_sublist(l:List (String×ToolPlanCall))(slots:ℕ)(reserved:List String):
  (readyLoop p l slots reserved).Sublist (l.map Prod.fst):=by
 induction l generalizing slots reserved with
 | nil=>exact .slnil
 | cons first l ih=>
  obtain ⟨id,planned⟩:=first
  rw [readyLoop]
  split_ifs
  · exact nil_sublist _
  · exact (ih slots reserved).cons id
  · exact (ih slots reserved).cons id
  · exact (ih slots reserved).cons id
  · exact (ih _ _).cons_cons id

lemma readyLoop_length(l:List (String×ToolPlanCall))(slots:ℕ)(reserved:List String):
  (readyLoop p l slots reserved).length≤ slots:=by
 induction l generalizing slots reserved with
 | nil=>exact Nat.zero_le _
 | cons first l ih=>
  obtain ⟨id,planned⟩:=first
  rw [readyLoop]
  split_ifs with hslots
  · exact Nat.zero_le _
  · exact ih slots reserved
  · exact ih slots reserved
  · exact ih slots reserved
  · have hle:=ih (slots-1) (planned.effectKey.toList++reserved)
    rw [length_cons]
    omega

lemma readyLoop_mem{reserved:List String}(h:id∈readyLoop p l slots reserved):
  ∃planned,(id,planned)∈l∧Eligible p (id,planned) ∧
   ∀key,planned.effectKey=some key→key∉reserved:=by
 induction l generalizing slots reserved with
 | nil=>cases h
 | cons first l ih=>
  obtain ⟨firstId,first⟩:=first
  have hrest:∀{slots:ℕ} {reserved:List String},id∈readyLoop p l slots reserved →
    ∃planned,(id,planned)∈(firstId,first)::l∧Eligible p (id,planned) ∧
     ∀key,planned.effectKey=some key→key∉reserved:=by
   intro slots reserved hid
   obtain ⟨planned,hmem,heligible,hkeys⟩:=ih hid
   exact ⟨planned,mem_cons_of_mem _ hmem,heligible,hkeys⟩
  rw [readyLoop] at h
  split_ifs at h with hslots hpending hdeps hkey
  · cases h
  · exact hrest h
  · exact hrest h
  · exact hrest h
  · rcases mem_cons.mp h with rfl|h
    · refine ⟨first,mem_cons_self,⟨not_not.mp hpending,by simpa using hdeps⟩,?_⟩
      intro key hfirst hmem
      apply hkey
      simp [hfirst,hmem]
    · obtain ⟨planned,hmem,heligible,hkeys⟩:=hrest h
      refine ⟨planned,hmem,heligible,?_⟩
      intro key hplanned hreserved
      exact hkeys key hplanned (mem_append_right _ hreserved)

lemma readyLoop_apart{reserved:List String}(hl:∀e∈l,p.calls[e.1]?=some e.2):
  (readyLoop p l slots reserved).Pairwise (SharesNoKey p.calls):=by
 induction l generalizing slots reserved with
 | nil=>exact .nil
 | cons first l ih=>
  obtain ⟨firstId,first⟩:=first
  have hrest:∀e∈l,p.calls[e.1]?=some e.2:=fun e he=>hl e (mem_cons_of_mem _ he)
  rw [readyLoop]
  split_ifs
  · exact .nil
  · exact ih hrest
  · exact ih hrest
  · exact ih hrest
  · refine .cons ?_ (ih hrest)
    intro id hid key hfirst hkey
    obtain ⟨planned,hmem,_,hfree⟩:=readyLoop_mem hid
    have hcall:=hrest (id,planned) hmem
    have hcallFirst:=hl (firstId,first) mem_cons_self
    simp only [effectKeyOf,hcall,hcallFirst,bind_some] at hfirst hkey
    apply hfree key hkey
    simp [hfirst]

lemma readyCallIds_startable(hbounded:runningCount p≤p.maximumParallelism):
  AllStartable p (readyCallIds p):=by
 have hcalls:∀e∈p.calls.toList,p.calls[e.1]?=some e.2:=
  fun e he=>mem_toList_iff_getElem?_eq_some.mp he
 rw [readyCallIds]
 split
 · exact ⟨nodup_nil,by simp,by simpa using hbounded,by simp,.nil⟩
 · next hslot=>
   constructor
   · exact (nodup_keys_toList p.calls).sublist (readyLoop_sublist _ _ _)
   · intro id hid
     obtain ⟨planned,hmem,heligible,_⟩:=readyLoop_mem hid
     exact ⟨planned,hcalls _ hmem,heligible⟩
   · have hlength:=readyLoop_length (p:=p) p.calls.toList
      (p.maximumParallelism-runningCount p) (runningEffectKeys p)
     omega
   · intro id hid key hkey
     obtain ⟨planned,hmem,_,hfree⟩:=readyLoop_mem hid
     apply hfree key
     simpa [effectKeyOf,hcalls _ hmem] using hkey
   · exact readyLoop_apart hcalls
end

structure NeverStalls (p:ToolExecutionPlan) : Prop where
 unblocked:∀(id:String) (planned:ToolPlanCall),p.calls[id]?=some planned →
  p.states[id]?=some .pending → ∀d∈planned.call.dependsOn,∃state,
   p.states[d]?=some state∧(state.isTerminal=true→state=.completed)
 progresses:(∃id:String,p.states[id]?=some .pending) →
  (∀id:String,p.states[id]?≠some .running) → readyCallIds p≠[]
 startable:∀ids : List String,ids.Perm (readyCallIds p) →
  ∀t∈history planStep p (ids.map PlanCall.recordStarted),t.response=.ok .done

lemma neverStalls_of(hsafe:Safe p)(hclosed:Closed p):NeverStalls p:=by
 constructor
 · intro id planned hcall hpending d hd
   obtain ⟨dep,hdep⟩:=hsafe.sound.known id d (by rwa [dependencies_of_call hcall])
   obtain ⟨state,hstate⟩:∃state,p.states[d]?=some state:=by
    rw [←isSome_iff_exists,hsafe.keys,hdep]
    rfl
   refine ⟨state,hstate,?_⟩
   have hfree:=hclosed id planned hcall hpending
   rw [isBlocked,List.any_eq_false] at hfree
   have hunblocked:=hfree d hd
   rw [hstate,any_some] at hunblocked
   intro hterminal
   simpa [ToolExecutionState.isTerminal,hunblocked] using hterminal
 · rintro ⟨id,hid⟩ hidle
   exact ready_of_idle hsafe hclosed hidle hid
 · intro ids hperm
   exact ((readyCallIds_startable hsafe.bounded).perm hperm).started

end GraphBlocks.ToolExecution
