import GraphBlocks.ToolExecutionProgress

namespace GraphBlocks.ToolExecution
open Std Json CanonicalJson MachineRuns OrderedMap RustStd List Option Std.ExtTreeMap

/-- A record that ends the call it names, and only if that call runs. -/
structure Finishes (p:ToolExecutionPlan) (id:String)
  (out:Except ToolExecutionPlanError Unit×ToolExecutionPlan) : Prop where
 ran:p.states[id]?=some .running
 done:out.1=.ok ()
 ends:Ends p out.2
 ended:∃state,out.2.states[id]?=some state∧state.isTerminal=true

variable {record:ToolExecutionPlan→String → Except ToolExecutionPlanError Unit×ToolExecutionPlan}

section
variable {p:ToolExecutionPlan} {id:String} {state:ToolExecutionState}

lemma enterTerminal_cases(p:ToolExecutionPlan)(id:String)
  (h:state.isTerminal=true):(∃e,enterTerminal p id state=(.error e,p)) ∨
   Finishes p id (enterTerminal p id state):=by
 have hout:EndsOrFails p (enterTerminal p id state):=enterTerminal_ends h
 rcases hout with hfail|⟨hok,hends⟩
 · exact .inl hfail
 · refine .inr ⟨?_,hok,hends,state,?_,h⟩
   · rw [enterTerminal] at hok
     split at hok
     · cases hok
     · next current hcurrent=>
       split at hok
       · cases hok
       · next hrunning=>rw [hcurrent,not_not.mp hrunning]
   · rw [enterTerminal] at hok ⊢
     split at hok
     · cases hok
     · split at hok
       · cases hok
       · next hrunning=>
         rw [if_neg hrunning]
         exact lookup_insert_self _ _ _

lemma Finishes.andThen{out:Except ToolExecutionPlanError Unit×ToolExecutionPlan}
  {rewrite:ToolExecutionPlan→ToolExecutionPlan}(h:Finishes p id out)
  (hrewrite:∀p,Ends p (rewrite p)):Finishes p id (andThen out rewrite):=by
 obtain ⟨result,middle⟩:=out
 obtain ⟨hran,hdone,hends,state,hstate,hterminal⟩:=h
 cases hdone
 refine ⟨hran,rfl,hends.trans (hrewrite middle),state,?_,hterminal⟩
 exact ((hrewrite middle).states id).terminal hstate hterminal

/-- The records that `SequentialToolQueue` makes of its running call. -/
inductive FinishingRecord :
  (ToolExecutionPlan→String→Except ToolExecutionPlanError Unit×ToolExecutionPlan)→Prop
 | completed : FinishingRecord recordCompleted
 | failed : FinishingRecord recordFailed
 | cancelled : FinishingRecord recordCancelled

lemma FinishingRecord.cases(h:FinishingRecord record)(p:ToolExecutionPlan)(id:String):
  (∃e,record p id=(.error e,p))∨Finishes p id (record p id):=by
 have hthen:∀{state:ToolExecutionState} {rewrite:ToolExecutionPlan→ToolExecutionPlan},
   state.isTerminal=true→(∀p,Ends p (rewrite p)) →
   (∃e,andThen (enterTerminal p id state) rewrite=(.error e,p)) ∨
    Finishes p id (andThen (enterTerminal p id state) rewrite):=by
  intro state rewrite hterminal hrewrite
  rcases enterTerminal_cases p id hterminal with ⟨e,hfail⟩|hfinishes
  · rw [hfail]
    exact .inl ⟨e,rfl⟩
  · exact .inr (hfinishes.andThen hrewrite)
 cases h with
 | completed=>exact enterTerminal_cases p id rfl
 | failed=>exact hthen rfl fun _=>ends_afterFailure
 | cancelled=>exact hthen rfl fun _=>ends_afterCancellation

/-- The record keeps the plan and fails, or it ends pending calls only. -/
structure LeavesRunning (p after:ToolExecutionPlan) : Prop where
 ends:Ends p after
 running:∀id : String,p.states[id]?=some .running→after.states[id]?=some .running

inductive PendingRecord :
  (ToolExecutionPlan→String→Except ToolExecutionPlanError Unit×ToolExecutionPlan)→Prop
 | denied : PendingRecord recordDenied
 | expired : PendingRecord recordExpired

lemma enterPendingTerminal_marked(h:state.isBlocking=true):
  LeavesRunning p (andThen (enterPendingTerminal p id state)
   (markBlockedDependents · .skipped)).2:=by
 rw [enterPendingTerminal]
 split
 · exact ⟨Ends.refl p,fun _ hrunning=>hrunning⟩
 · next current hcurrent=>
   split
   · exact ⟨Ends.refl p,fun _ hrunning=>hrunning⟩
   · next hpending=>
     have hbefore:p.states[id]?=some .pending:=by rw [hcurrent,not_not.mp hpending]
     have hfirst:Ends p (withState p id state):=
      ⟨rfl,rfl,endsCalls_insert (.inr (.inl ⟨hbefore,state,rfl,h⟩))⟩
     refine ⟨hfirst.trans (ends_markBlockedDependents rfl),?_⟩
     intro j hj
     have hne:id≠j:=by
      rintro rfl
      rw [hbefore] at hj
      cases hj
     refine markLoop_keeps (by decide) _ ?_
     exact (lookup_insert_ne _ _ hne).trans hj

lemma PendingRecord.leaves(h:PendingRecord record)
  (p:ToolExecutionPlan)(id:String):LeavesRunning p (record p id).2:=by
 cases h with
 | denied=>exact enterPendingTerminal_marked rfl
 | expired=>exact enterPendingTerminal_marked rfl

lemma stopped_running(h:p.states[id]?=some .running)(pendingToolCalls:PendingToolCallsDisposition):
  (id∈(applyPolicyStop p pendingToolCalls).1 ∧
    (applyPolicyStop p pendingToolCalls).2.states[id]?=some .cancelled) ∨
   (id∉(applyPolicyStop p pendingToolCalls).1 ∧
    (applyPolicyStop p pendingToolCalls).2.states[id]?=some .running):=by
 have hmem:id∈(applyPolicyStop p pendingToolCalls).1 ↔
   (stoppedState p pendingToolCalls id .running).isSome=true:=by
  simp only [applyPolicyStop,List.mem_map,List.mem_filter]
  constructor
  · rintro ⟨⟨key,state⟩,⟨hmem,hsome⟩,rfl⟩
    have hstate:=mem_toList_iff_getElem?_eq_some.mp hmem
    rw [h] at hstate
    cases hstate
    exact hsome
  · intro hsome
    exact ⟨(id,.running),⟨mem_toList_iff_getElem?_eq_some.mpr h,hsome⟩,rfl⟩
 have hafter:(applyPolicyStop p pendingToolCalls).2.states[id]? =
   some ((stoppedState p pendingToolCalls id .running).getD .running):=by
  simp only [applyPolicyStop,ExtTreeMap.getElem?_map,h,map_some]
 have hstopped:stoppedState p pendingToolCalls id .running=none ∨
   stoppedState p pendingToolCalls id .running=some .cancelled:=by
  cases pendingToolCalls with
  | keep=>exact .inl rfl
  | deny=>exact .inl rfl
  | cancelAdmitted=>
   simp only [stoppedState,if_true]
   split
   · exact .inr rfl
   · exact .inl rfl
 rw [hmem,hafter]
 rcases hstopped with hnone|hsome
 · exact .inr (by simp [hnone])
 · exact .inl (by simp [hsome])
end

structure InStep (q:SequentialToolQueue) : Prop where
 safe:Safe q.plan
 closed:Closed q.plan
 running:∀id,q.runningCallId=some id↔q.plan.states[id]?=some .running

section
variable {q:SequentialToolQueue} (h:InStep q)
include h

lemma InStep.idle(hnone:q.runningCallId=none)(id:String):q.plan.states[id]?≠some .running:=by
 rw [Ne,←h.running,hnone]
 intro hsome
 cases hsome

lemma InStep.startNextReady:InStep (startNextReady q).2:=by
 rw [ToolExecution.startNextReady]
 split
 · exact h
 · next hnone=>
   have hidle:=h.idle (by simpa using hnone)
   split
   · exact h
   · next id _=>
     have hsafe:=h.safe.step (.recordStarted id)
     have hclosed:=Closed.step h.closed (.recordStarted id)
     simp only [planStep,answered] at hsafe hclosed
     rcases recordStarted_cases q.plan id with ⟨e,hfail⟩|⟨planned,_,hok⟩
     · rw [hfail]
       exact h
     · rw [hok] at hsafe hclosed ⊢
       refine ⟨hsafe,hclosed,?_⟩
       intro j
       rw [running_started]
       constructor
       · rintro hj
         exact .inl (some.inj hj).symm
       · rintro (rfl|hj)
         · rfl
         · exact absurd hj (hidle j)

lemma InStep.finishRunning(hrecord:FinishingRecord record)
  (hclosed:∀id,Closed (record q.plan id).2)(id:String):InStep (finishRunning q record id).2:=by
 rw [ToolExecution.finishRunning]
 split
 · exact h
 · rcases hrecord.cases q.plan id with ⟨e,hfail⟩|hfinishes
   · rw [hfail]
     exact h
   · have hafter:=hclosed id
     obtain ⟨hran,hdone,hends,state,hstate,hterminal⟩:=hfinishes
     obtain ⟨⟨result,after⟩,hout⟩:∃out,record q.plan id=out:=⟨_,rfl⟩
     rw [hout] at hdone hends hstate hafter ⊢
     cases hdone
     refine ⟨h.safe.ends hends,hafter,?_⟩
     intro j
     constructor
     · intro hj
       cases hj
     intro hj
     -- only the finished call ran before, and it has ended
     have hbefore:=(hends.states j).live hj rfl
     have hsame:=((h.running j).mpr hbefore).symm.trans ((h.running id).mpr hran)
     cases hsame
     rw [hstate] at hj
     cases hj
     cases hterminal

lemma InStep.recordPending(hrecord:PendingRecord record)
  (hclosed:∀id,Closed (record q.plan id).2)(id:String):InStep (recordPending q record id).2:=by
 have hleaves:=hrecord.leaves q.plan id
 refine ⟨h.safe.ends hleaves.ends,hclosed id,?_⟩
 intro j
 refine (h.running j).trans ⟨hleaves.running j,?_⟩
 intro hj
 exact (hleaves.ends.states j).live hj rfl

lemma InStep.applyPolicyStop(pendingToolCalls:PendingToolCallsDisposition):
  InStep (queueApplyPolicyStop q pendingToolCalls).2:=by
 have hends:=ends_applyPolicyStop (p:=q.plan) pendingToolCalls
 refine ⟨h.safe.ends hends,Closed.applyPolicyStop h.closed pendingToolCalls,?_⟩
 intro j
 have hran:(ToolExecution.applyPolicyStop q.plan pendingToolCalls).2.states[j]? =
   some .running→q.runningCallId=some j:=
  fun hj=>(h.running j).mpr ((hends.states j).live hj rfl)
 simp only [queueApplyPolicyStop]
 cases hid:q.runningCallId with
 | none=>
  constructor
  · intro hj
    cases hj
  intro hj
  have hsome:=hran hj
  rw [hid] at hsome
  cases hsome
 | some id=>
  rcases stopped_running ((h.running id).mp hid) pendingToolCalls with
   ⟨haffected,hafter⟩ | ⟨haffected,hafter⟩
  · rw [any_some,List.contains_iff_mem.mpr haffected]
    constructor
    · intro hj
      cases hj
    intro hj
    have hsame:=hid.symm.trans (hran hj)
    cases hsame
    rw [hafter] at hj
    cases hj
  · rw [any_some,contains_eq_mem,decide_eq_false haffected]
    constructor
    · intro hj
      cases hj
      exact hafter
    · intro hj
      exact hid.symm.trans (hran hj)

lemma InStep.step(call:QueueCall):InStep (queueStep q call).2:=by
 cases call with
 | startNextReady=>exact h.startNextReady
 | recordCompleted id=>
  exact h.finishRunning .completed (fun id=>Closed.step h.closed (.recordCompleted id)) id
 | recordFailed id=>
  exact h.finishRunning .failed (fun id=>Closed.step h.closed (.recordFailed id)) id
 | recordDenied id=>
  exact h.recordPending .denied (fun id=>Closed.step h.closed (.recordDenied id)) id
 | recordExpired id=>
  exact h.recordPending .expired (fun id=>Closed.step h.closed (.recordExpired id)) id
 | recordCancelled id=>
  exact h.finishRunning .cancelled (fun id=>Closed.step h.closed (.recordCancelled id)) id
 | applyPolicyStop pendingToolCalls=>exact h.applyPolicyStop pendingToolCalls
 | withFailurePolicy policy=>exact ⟨h.safe.step (.withFailurePolicy policy),h.closed,h.running⟩
 | withCancellationPolicy policy=>
  exact ⟨h.safe.step (.withCancellationPolicy policy),h.closed,h.running⟩

lemma InStep.starts(hpending:∃id:String,q.plan.states[id]?=some .pending)
  (hidle:∀id:String,q.plan.states[id]?≠some .running):
  ∃id,(ToolExecution.startNextReady q).1=.ok (some id):=by
 obtain ⟨pendingId,hpending⟩:=hpending
 have hnone:q.runningCallId=none:=by
  rw [eq_none_iff_forall_ne_some]
  intro id hid
  exact hidle id ((h.running id).mp hid)
 obtain ⟨id,ids,hready⟩:=exists_cons_of_ne_nil (ready_of_idle h.safe h.closed hidle hpending)
 have hstartable:AllStartable q.plan (id::ids):=by
  rw [←hready]
  exact readyCallIds_startable h.safe.bounded
 obtain ⟨planned,hstart⟩:=hstartable.first
 refine ⟨id,?_⟩
 simp [ToolExecution.startNextReady,hnone,hready,recordStarted_ok hstart]
end

lemma inStep_new{d:StringDisplay}{sha256:List Char→String}{planId responseId:String}
  {calls:List ToolPlanCall}{queue:SequentialToolQueue}
  (h:SequentialToolQueue.new d sha256 planId responseId calls=.ok queue):InStep queue:=by
 simp only [SequentialToolQueue.new,bind_ok] at h
 obtain ⟨_,_,plan,hplan,h⟩:=h
 cases h
 have haccepted:ToolExecutionPlan.new d sha256 planId responseId calls 1=.ok plan:=by
  cases hnew:ToolExecutionPlan.new d sha256 planId responseId calls 1 with
  | error e=>
   rw [hnew] at hplan
   cases hplan
  | ok accepted=>
   rw [hnew] at hplan
   cases hplan
   rfl
 refine ⟨safe_new haccepted,closed_new haccepted,?_⟩
 intro id
 constructor
 · intro hid
   cases hid
 · intro hid
   cases new_pending haccepted hid

structure RunsInOrder (q:SequentialToolQueue) : Prop where
 plan:NeverStalls q.plan
 running:∀id,q.runningCallId=some id↔q.plan.states[id]?=some .running
 starts:(∃id:String,q.plan.states[id]?=some .pending) →
  (∀id:String,q.plan.states[id]?≠some .running) → ∃id,(startNextReady q).1=.ok (some id)

/-- No operation on an accepted plan, and none on a queue, loses a pending call: when nothing runs
one of them is ready, and all ready calls can be started in any order. -/
theorem accepted_plans_never_stall (d : StringDisplay) (sha256 : List Char→String)
  (planId responseId : String) (calls : List ToolPlanCall) :
  (∀maximumParallelism plan,
   ToolExecutionPlan.new d sha256 planId responseId calls maximumParallelism=.ok plan →
    ∀steps,NeverStalls (execute planStep plan steps)) ∧
   ∀queue,SequentialToolQueue.new d sha256 planId responseId calls=.ok queue →
    ∀steps,RunsInOrder (execute queueStep queue steps) := by
 refine ⟨?_,?_⟩
 · intro maximumParallelism plan hplan steps
   have hreached:=execute_invariant planStep (I:=fun p=>Safe p∧Closed p)
    ⟨safe_new hplan,closed_new hplan⟩
    (fun p call hp=>⟨hp.1.step call,Closed.step hp.2 call⟩) steps
   exact neverStalls_of hreached.1 hreached.2
 · intro queue hqueue steps
   have hreached:=execute_invariant queueStep (inStep_new hqueue)
    (fun q call hq=>InStep.step hq call) steps
   exact ⟨neverStalls_of hreached.safe hreached.closed,hreached.running,hreached.starts⟩

/-- A plan and a queue of three writes, of which one fails while another waits for it. -/
theorem threeWrites_never_stall :
  (∃plan,ToolExecutionPlan.new serdeDisplay emptyObjectSha256 "plan" "response" threeWrites 2 =
    .ok plan ∧
   NeverStalls (execute planStep plan [.recordStarted "first",.recordFailed "first"])) ∧
  ∃queue,SequentialToolQueue.new serdeDisplay emptyObjectSha256 "plan" "response"
    threeWrites=.ok queue ∧
   RunsInOrder (execute queueStep queue [.startNextReady,.recordFailed "first"]) := by
 have hstall:=accepted_plans_never_stall serdeDisplay emptyObjectSha256 "plan" "response"
  threeWrites
 refine ⟨?_,?_⟩
 · obtain ⟨plan,hplan⟩:=threeWrites_accepted
   exact ⟨plan,hplan,hstall.1 2 plan hplan _⟩
 · have hok:(SequentialToolQueue.new serdeDisplay emptyObjectSha256 "plan" "response"
     threeWrites).isOk=true:=by decide +kernel
   cases hqueue:SequentialToolQueue.new serdeDisplay emptyObjectSha256 "plan" "response"
     threeWrites with
   | error e=>
    rw [hqueue] at hok
    cases hok
   | ok queue=>exact ⟨queue,rfl,hstall.2 queue hqueue _⟩

end GraphBlocks.ToolExecution
