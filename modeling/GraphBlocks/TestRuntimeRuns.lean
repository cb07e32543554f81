import GraphBlocks.TestRuntimeSteps

namespace GraphBlocks.TestRuntime
open FiniteMap Json Scheduler Journal List

section
variable {settings:Settings} {environment:Environment} {executor:OutcomeNodeExecutor}
 {scheduler:LocalScheduler} {runId:String}

def seenAt (run:ℕ→RunState) (n:ℕ) : Signals→Prop :=
 fun signals=>∃m≤n,signals=(run m).scheduler.signals

lemma seenAt_succ(run:ℕ→RunState)(n:ℕ):
  seenAt run (n+1)=afterwards (seenAt run n) (run (n+1)).scheduler.signals:=by
 funext signals
 apply propext
 constructor
 · rintro ⟨m,hm,rfl⟩
   rcases Nat.lt_or_ge m (n+1) with hless|hge
   · exact .inl ⟨m,by omega,rfl⟩
   · have heq:m=n+1:=by omega
     exact .inr (by rw [heq])
 · rintro (⟨m,hm,rfl⟩|rfl)
   · exact ⟨m,by omega,rfl⟩
   · exact ⟨n+1,le_rfl,rfl⟩

lemma stateAt_succ(journal:ExecutionJournal)(n:ℕ):
  stateAt settings environment executor scheduler journal (n+1)=step settings environment executor
    (stateAt settings environment executor scheduler journal n):=
 Function.iterate_succ_apply' _ _ _

variable {result:Except TestRuntimeError OutcomeRunStatus}

lemma step_finished{s:RunState}
  (h:s.control=.finished result):step settings environment executor s=s:=by
 simp only [step,h]

lemma stateAt_finished{journal:ExecutionJournal}{n:ℕ}
  (h:(stateAt settings environment executor scheduler journal n).control=.finished result)
  (m:ℕ)(hm:n≤ m):stateAt settings environment executor scheduler journal m =
   stateAt settings environment executor scheduler journal n:=by
 induction m, hm using Nat.le_induction with
 | base=>rfl
 | succ m _ ih=>rw [stateAt_succ,ih,step_finished h]

lemma evaluatedState_completed{s:LocalScheduler}{id:String}
  (h:evaluatedState s id=some .completed):s.states.lookup id=some .completed:=by
 cases hnode:s.nodes.lookup id with
 | none=>rwa [evaluatedState_other (.inl hnode)] at h
 | some node=>
  by_cases hpending:s.states.lookup id=some .pending
  · rw [evaluatedState_pending hnode hpending] at h
    rcases verdictState_cases (nodeReadiness s.signals node) with hv|hv|hv <;>
     simp [hv] at h
  · rwa [evaluatedState_other (.inr hpending)] at h

/-- A runtime that was not run yet: every node is pending. -/
structure Unrun (scheduler:LocalScheduler) : Prop where
 pending:∀id,scheduler.states.lookup id=(scheduler.nodes.lookup id).map fun _=>.pending
 admitted:scheduler.admitted=false

lemma insertNodes_admitted(nodes:List ScheduledNode)(s t:LocalScheduler)
  (h:insertNodes nodes s=.ok t):t.admitted=s.admitted:=by
 induction nodes generalizing s with
 | nil=>
  cases h
  rfl
 | cons node rest ih=>
  rw [insertNodes] at h
  by_cases hknown:(s.nodes.lookup node.nodeId).isSome=true
  · rw [if_pos hknown] at h
    cases h
  · rw [if_neg hknown] at h
    have hrest:=ih _ h
    exact hrest

lemma new_unrun{nodes:List ScheduledNode}(h:Scheduler.new nodes=.ok scheduler):Unrun scheduler:=
 ⟨(new_fresh h).states_eq,insertNodes_admitted nodes _ scheduler h⟩

lemma withInitialValues_eq(h:scheduler.admitted=false)(values:List (PortRef×Value)):
  withInitialValues scheduler values = { scheduler with
   signals:=values.foldl (fun m entry=>m.insert entry.1 (.value entry.2))
     scheduler.signals }:=by
 induction values generalizing scheduler with
 | nil=>rfl
 | cons entry rest ih=>
  have hpublish:(publishSignal scheduler entry.1 (.value entry.2)).2={ scheduler with
    signals:=scheduler.signals.insert entry.1 (.value entry.2) }:=by
   simp [publishSignal,h]
  simp only [withInitialValues,foldl_cons,hpublish] at ih ⊢
  exact ih h

lemma Unrun.withInitialValues(h:Unrun scheduler)(values:List (PortRef×Value)):
  Unrun (withInitialValues scheduler values):=by
 rw [withInitialValues_eq h.admitted]
 exact ⟨h.pending,h.admitted⟩

def cancelledBefore (environment:Environment) : Option CancelReason :=
 environment.token.bind fun reason=>reason 0

lemma recorded_start(settings:Settings){states:FMap String NodeExecutionState}
  {r:JournalRecord}(hkind:r.kind="run_started")
  (hcompleted:∀id,states.lookup id≠some .completed):Recorded settings states [r]:=by
 have hstarts:∀id,startsOf [r] id=[]:=by
  intro id
  simp [startsOf,hkind]
 refine ⟨⟨r,[],rfl,hkind⟩,?_,?_,?_,?_⟩
 · intro id
   rw [hstarts]
   rfl
 · intro id
   rw [hstarts]
   exact Nat.zero_le _
 · intro id _
   exact hstarts id
 · intro id
   rw [if_neg (hcompleted id)]
   simp [completionsOf,hkind]

def startRecord (runId:String) : JournalRecord :=
 extended (.new runId) "run_started" .new none false

lemma openJournal_new(runId:String):OpenJournal (.new runId):=by
 refine ⟨rfl,?_⟩
 intro r hr
 cases hr

lemma openJournal_start(runId:String):OpenJournal ⟨runId,[startRecord runId],none⟩:=by
 refine ⟨rfl,?_⟩
 intro r hr
 rw [mem_singleton] at hr
 rw [hr]
 rfl

lemma startRun_going(scheduler:LocalScheduler)(runId:String)(h:cancelledBefore environment=none):
  ∃reads,startRun environment scheduler (.new runId) =
   ⟨(admitRun scheduler).2,⟨runId,[startRecord runId],none⟩,0,(admitRun scheduler).1,
    .next,reads,0⟩:=by
 unfold startRun
 simp only
 rw [record_open (openJournal_new runId)]
 cases htoken:environment.token with
 | none=>
  simp only [readToken,htoken]
  exact ⟨_,rfl⟩
 | some reason=>
  have hnone:reason 0=none:=by simpa [cancelledBefore,htoken] using h
  simp only [readToken,htoken,hnone]
  exact ⟨_,rfl⟩

lemma startRun_cancelled(scheduler:LocalScheduler)(runId:String){reason:CancelReason}
  (h:cancelledBefore environment=some reason):
  (startRun environment scheduler (.new runId)).scheduler=scheduler ∧
  (startRun environment scheduler (.new runId)).control=.finished (.ok .cancelled) ∧
  (startRun environment scheduler (.new runId)).journal.records=[startRecord runId] ++
   [extended ⟨runId,[startRecord runId],none⟩ "run_cancelled" .new
    (some (cancelPayload reason)) true]:=by
 unfold startRun
 simp only
 rw [record_open (openJournal_new runId)]
 cases htoken:environment.token with
 | none=>simp [cancelledBefore,htoken] at h
 | some token=>
  have hsome:token 0=some reason:=by simpa [cancelledBefore,htoken] using h
  simp only [readToken,htoken,hsome]
  rw [conclude_open (openJournal_start runId)]
  exact ⟨rfl,rfl,rfl⟩

section
variable (h:Unrun scheduler) (hgoing:cancelledBefore environment=none)
include h hgoing

lemma runInv_start:
  RunInv settings scheduler.nodes
   (seenAt (stateAt settings environment executor scheduler (.new runId)) 0)
   (stateAt settings environment executor scheduler (.new runId) 0):=by
 obtain ⟨reads,heq⟩:=startRun_going scheduler runId hgoing
 have hzero:stateAt settings environment executor scheduler (.new runId) 0 =
   ⟨(admitRun scheduler).2,⟨runId,[startRecord runId],none⟩,0,(admitRun scheduler).1,
    .next,reads,0⟩:=heq
 have hsignals:(admitRun scheduler).2.signals=scheduler.signals:=
  (evaluateReadiness_effect { scheduler with admitted:=true }).1.signals
 have hseen:seenAt (stateAt settings environment executor scheduler (.new runId)) 0 =
   (·=scheduler.signals):=by
  funext signals
  apply propext
  simp only [seenAt,Nat.le_zero]
  constructor
  · rintro ⟨m,rfl,rfl⟩
    rw [hzero]
    exact hsignals
  · intro hs
    exact ⟨0,rfl,by rw [hzero];exact hs.trans hsignals.symm⟩
 have hscheduled:Scheduled scheduler.nodes (·=scheduler.signals) (admitRun scheduler).2
   (admitRun scheduler).1 none:= Scheduled.admit rfl h.pending
 rw [hseen,hzero]
 refine ⟨⟨_,_,hscheduled⟩,?_,?_,?_,?_⟩
 · intro _
   refine ⟨openJournal_start runId,hscheduled,recorded_start settings rfl ?_⟩
   intro id hcompleted
   have hstate:(admitRun scheduler).2.states.lookup id =
     evaluatedState { scheduler with admitted:=true } id:=
    (evaluateReadiness_effect { scheduler with admitted:=true }).2.1 id
   have hbefore:=evaluatedState_completed (hstate.symm.trans hcompleted)
   rw [h.pending] at hbefore
   cases hnode:scheduler.nodes.lookup id with
   | none=>
    rw [hnode] at hbefore
    cases hbefore
   | some node=>
    rw [hnode] at hbefore
    cases hbefore
 · intro node n hcontrol
   cases hcontrol
 · intro status hcontrol
   cases hcontrol
 · intro e hcontrol
   cases hcontrol

lemma runInv_stateAt(n:ℕ):RunInv settings scheduler.nodes
   (seenAt (stateAt settings environment executor scheduler (.new runId)) n)
   (stateAt settings environment executor scheduler (.new runId) n):=by
 induction n with
 | zero=>exact runInv_start h hgoing
 | succ n ih=>
  rw [seenAt_succ]
  cases hcontrol:(stateAt settings environment executor scheduler (.new runId) n).control with
  | next=>
   rw [stateAt_succ]
   exact (step_advances ih (by simp [hcontrol])).inv
  | attempt node k=>
   rw [stateAt_succ]
   exact (step_advances ih (by simp [hcontrol])).inv
  | finished result=>
   obtain ⟨ready,current,hscheduled⟩:=ih.scheduled
   rw [stateAt_succ,step_finished hcontrol,afterwards_eq hscheduled.seen_now]
   exact ih

lemma eventually_finished:
  ∃n result,(stateAt settings environment executor scheduler (.new runId) n).control =
   .finished result:=by
 -- on the work that is left
 have hwork:∀work n,remainingWork scheduler.nodes
    (stateAt settings environment executor scheduler (.new runId) n)≤work →
   ∃m result,(stateAt settings environment executor scheduler (.new runId) m).control =
    .finished result:=by
  intro work
  induction work with
  | zero=>
   intro n hn
   refine ⟨n,?_⟩
   cases hcontrol:(stateAt settings environment executor scheduler (.new runId) n).control with
   | next=>simp [remainingWork,hcontrol] at hn
   | attempt node k=>
    have hk:=((runInv_stateAt h hgoing n).attempt node k hcontrol).2.2.2.2
    have hmax:=(attemptLimit_bounds settings node.nodeId).2
    unfold maxNodeRetryAttempts at hmax
    simp only [remainingWork,hcontrol] at hn
    omega
   | finished result=>exact ⟨result,rfl⟩
  | succ work ih=>
   intro n hn
   by_cases hfinished :
     ∃result,(stateAt settings environment executor scheduler (.new runId) n).control =
      .finished result
   · exact ⟨n,hfinished⟩
   · have hstep:Advances settings scheduler.nodes
       (seenAt (stateAt settings environment executor scheduler (.new runId)) n)
       (remainingWork scheduler.nodes
        (stateAt settings environment executor scheduler (.new runId) n))
       (step settings environment executor
        (stateAt settings environment executor scheduler (.new runId) n)):=
      step_advances (runInv_stateAt h hgoing n)
       (fun result hresult=>hfinished ⟨result,hresult⟩)
     have hless:=hstep.work
     rw [←stateAt_succ] at hless
     exact ih (n+1) (by omega)
 exact hwork _ 0 le_rfl

end
end

end GraphBlocks.TestRuntime
