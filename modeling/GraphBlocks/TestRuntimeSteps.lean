import GraphBlocks.TestRuntimeRecords

namespace GraphBlocks.TestRuntime
open FiniteMap Json Scheduler Journal List

/-- The signals seen after a step: those of before, and those that the step leaves. -/
def afterwards (seen:Signals→Prop) (signals:Signals) : Signals→Prop :=
 fun earlier=>seen earlier∨earlier=signals

lemma afterwards_eq{seen:Signals→Prop}{signals:Signals}(h:seen signals):
  afterwards seen signals=seen:=by
 funext earlier
 apply propext
 constructor
 · rintro (hseen|rfl)
   · exact hseen
   · exact h
 · exact .inl

lemma Scheduled.afterwards {nodes:FMap String ScheduledNode} {seen:Signals→Prop} {s:LocalScheduler}
  {ready:List String} {current:Option String} (h:Scheduled nodes seen s ready current) :
  Scheduled nodes (afterwards seen s.signals) s ready current where
 admitted:=h.admitted
 nodes_eq:=h.nodes_eq
 known:=h.known
 nodup:=h.nodup
 queued:=h.queued
 running:=h.running
 released id node hnode hready:=by
  obtain ⟨signals,inputs,hseen,hverdict⟩:=h.released id node hnode hready
  exact ⟨signals,inputs,.inl hseen,hverdict⟩
 waiting:=h.waiting
 seen_now:=.inr rfl
 monotone signals hseen port hport:=by
  rcases hseen with hold|rfl
  · exact h.monotone signals hold port hport
  · exact hport

def AllCompleted (nodes:FMap String ScheduledNode) (s:LocalScheduler) : Prop :=
 ∀id,(nodes.lookup id).isSome=true→s.states.lookup id=some .completed

structure Ended (settings:Settings) (s:RunState) (status:OutcomeRunStatus) : Prop where
 last:∃earlier last,s.journal.records=earlier++[last] ∧
  last.kind=status.terminalKind∧last.terminal=true ∧
  ∀r∈earlier,r.terminal=false
 recorded:Recorded settings s.scheduler.states s.journal.records

/-- The journal of a run that returned with an error, for an output of another node. -/
structure Broken (settings:Settings) (s:RunState) (e:TestRuntimeError) : Prop where
 foreign:∃node other,e=.scheduler (.outputOwnerMismatch node other)∧other≠node
 journal:OpenJournal s.journal
 recorded:Recorded settings s.scheduler.states s.journal.records

structure RunInv (settings:Settings) (nodes:FMap String ScheduledNode)
  (seen:Signals→Prop) (s:RunState) : Prop where
 scheduled:∃ready current,Scheduled nodes seen s.scheduler ready current
 next:s.control=.next→OpenJournal s.journal∧Scheduled nodes seen s.scheduler s.ready none ∧
  Recorded settings s.scheduler.states s.journal.records
 attempt:∀node n,s.control=.attempt node n→OpenJournal s.journal ∧
  Scheduled nodes seen s.scheduler s.ready (some node.nodeId) ∧
  Recorded settings s.scheduler.states s.journal.records ∧
  (startsOf s.journal.records node.nodeId).length+1=n ∧
  n≤attemptLimit settings node.nodeId
 returned:∀status,s.control=.finished (.ok status)→Ended settings s status ∧
  (status=.succeeded↔AllCompleted nodes s.scheduler)
 failed:∀e,s.control=.finished (.error e)→Broken settings s e

/-- The number of nodes that may still be started. -/
def liveNodes (nodes:FMap String ScheduledNode) (s:LocalScheduler) : ℕ :=
 ((sortedKeys nodes).filter fun id=>isLive (s.states.lookup id)).length

def remainingWork (nodes:FMap String ScheduledNode) (s:RunState) : ℕ :=
 match s.control with
 | .next=>102*liveNodes nodes s.scheduler+1
 | .attempt _ n=>102*liveNodes nodes s.scheduler+(102-n)
 | .finished _=>0

/-- A state that keeps the invariant and has less work left than a bound. -/
structure Advances (settings:Settings) (nodes:FMap String ScheduledNode)
  (seen:Signals→Prop) (bound:ℕ) (s:RunState) : Prop where
 inv:RunInv settings nodes (afterwards seen s.scheduler.signals) s
 work:remainingWork nodes s<bound

section
variable {settings:Settings} {environment:Environment} {executor:OutcomeNodeExecutor}
 {nodes:FMap String ScheduledNode} {seen:Signals→Prop} {s:RunState}
 {ready:List String} {current:Option String} {bound:ℕ}

lemma liveNodes_le{s t:LocalScheduler}
  (h:∀id,isLive (t.states.lookup id)=true→isLive (s.states.lookup id)=true):
  liveNodes nodes t≤liveNodes nodes s:=
 (monotone_filter_right _ h).length_le

variable {id:String}

lemma liveNodes_start{s:LocalScheduler}{state:NodeExecutionState}
  (hlive:isLive (s.states.lookup id)=true)(hnot:isLive (some state)=false)
  (hid:(nodes.lookup id).isSome=true){t:LocalScheduler}
  (ht:t.states=s.states.insert id state):liveNodes nodes t+1≤liveNodes nodes s:=by
 unfold liveNodes
 have herase:((sortedKeys nodes).filter fun j=>isLive (t.states.lookup j)) =
   ((sortedKeys nodes).filter fun j=>isLive (s.states.lookup j)).erase id:=by
  rw [((sortedKeys_nodup nodes).filter _).erase_eq_filter,filter_filter]
  apply filter_congr
  intro j _
  rw [ht,lookup_insert_eq]
  by_cases hj:j=id
  · simp [hj,hnot]
  · simp [hj]
 have hmem:id∈(sortedKeys nodes).filter fun j=>isLive (s.states.lookup j):=
  mem_filter.mpr ⟨mem_sortedKeys.mpr hid,hlive⟩
 rw [herase,length_erase_of_mem hmem]
 have hpos:=length_pos_of_mem hmem
 omega

lemma terminalKind_neutral(status:OutcomeRunStatus):isNeutral status.terminalKind=true:=by
 cases status <;>rfl

lemma Advances.conclude(hjournal:OpenJournal s.journal)
  (hscheduled:Scheduled nodes seen s.scheduler ready current)
  (hrecorded:Recorded settings s.scheduler.states s.journal.records)(status:OutcomeRunStatus)
  (metadata:JournalMetadata)(payload:Option Value)
  (hstatus:status=.succeeded↔AllCompleted nodes s.scheduler)(hbound:0<bound):
  Advances settings nodes seen bound (s.conclude status metadata payload):=by
 rw [conclude_open hjournal]
 refine ⟨⟨⟨ready,current,hscheduled.afterwards⟩,?_,?_,?_,?_⟩,hbound⟩
 · intro h
   cases h
 · intro node n h
   cases h
 · intro status' h
   cases h
   exact ⟨⟨⟨_,_,rfl,rfl,rfl,hjournal.open_records⟩,
    hrecorded.neutral (terminalKind_neutral status)⟩,hstatus⟩
 · intro e h
   cases h

lemma Advances.stop(hjournal:OpenJournal s.journal)
  (hscheduled:Scheduled nodes seen s.scheduler ready current)
  (hrecorded:Recorded settings s.scheduler.states s.journal.records)
  (hid:∃state,s.scheduler.states.lookup id=some state∧state ≠ .completed){status:OutcomeRunStatus}
  (hstatus:status ≠ .succeeded)(metadata:JournalMetadata)(payload:Option Value)(hbound:0<bound):
  Advances settings nodes seen bound (s.conclude status metadata payload):=by
 refine Advances.conclude hjournal hscheduled hrecorded status metadata payload ?_ hbound
 refine ⟨fun h=>absurd h hstatus,?_⟩
 intro hall
 obtain ⟨state,hstate,hne⟩:=hid
 have hknown:(nodes.lookup id).isSome=true:=by
  rw [←hscheduled.known,hstate]
  rfl
 rw [hall id hknown] at hstate
 exact absurd (Option.some.inj hstate).symm hne

lemma Scheduled.unfinished(h:Scheduled nodes seen s.scheduler ready (some id)):
  ∃state,s.scheduler.states.lookup id=some state∧state ≠ .completed:=
 ⟨.running,(h.running id).mpr rfl,by simp⟩

lemma Advances.failRun(hjournal:OpenJournal s.journal)
  (hscheduled:Scheduled nodes seen s.scheduler ready (some id))
  (hrecorded:Recorded settings s.scheduler.states s.journal.records)(metadata:JournalMetadata)
  (payload:Value)(hbound:0<bound):
  Advances settings nodes seen bound (s.failRun metadata payload):=by
 unfold RunState.failRun
 rw [record_open hjournal]
 apply Advances.stop (hjournal.append "node_failed" metadata (some payload))
 · exact hscheduled
 · exact hrecorded.neutral rfl
 · exact hscheduled.unfinished
 · exact nofun
 · exact hbound

lemma Advances.complete(hjournal:OpenJournal s.journal)
  (hscheduled:Scheduled nodes seen s.scheduler s.ready (some id))
  (hrecorded:Recorded settings s.scheduler.states s.journal.records)
  (outputs:List (PortRef×Outcome))(metadata:JournalMetadata)(hmetadata:metadata.nodeId=some id)
  (payload:Option Value)(hbound:102*liveNodes nodes s.scheduler+1<bound):
  Advances settings nodes seen bound (s.complete id outputs metadata payload):=by
 have hrunning:s.scheduler.states.lookup id=some .running:=(hscheduled.running id).mpr rfl
 unfold RunState.complete
 cases hfind:outputs.find? fun o=>o.1.node≠id with
 | some o=>
  have hforeign:o.1.node≠id:=by simpa using List.find?_some hfind
  have heq:completeNode s.scheduler id outputs =
    (.error (.outputOwnerMismatch id o.1.node),s.scheduler):=by
   simp only [completeNode,hrunning,hfind]
   rfl
  rw [heq]
  refine ⟨⟨⟨s.ready,some id,hscheduled.afterwards⟩,?_,?_,?_,?_⟩,by
   simp only [RunState.finish,remainingWork];omega⟩
  · intro h
    cases h
  · intro node n h
    cases h
  · intro status h
    cases h
  · intro e h
    cases h
    exact ⟨⟨id,o.1.node,rfl,hforeign⟩,hjournal,hrecorded⟩
 | none=>
  have hown:∀o∈outputs,o.1.node=id:=by
   intro o ho
   simpa using List.find?_eq_none.mp hfind o ho
  obtain ⟨newly,scheduler,heq,hafter,hsignals,hcompleted,hlive⟩:=
   hscheduled.complete hown (fun _ h=>.inl h) (fun _ h=>h) (.inr rfl)
  have hopen:OpenJournal { s with scheduler:=scheduler }.journal:=hjournal
  rw [heq]
  simp only
  rw [record_open hopen]
  have hscheduled':Scheduled nodes (TestRuntime.afterwards seen scheduler.signals) scheduler
    (s.ready++newly) none:=by
   rw [hsignals]
   exact hafter
  refine ⟨⟨⟨s.ready++newly,none,hscheduled'⟩,?_,?_,?_,?_⟩,?_⟩
  · intro _
    refine ⟨hjournal.append "node_completed" metadata payload,hscheduled',?_⟩
    refine hrecorded.complete rfl hmetadata hrunning hcompleted ?_
    intro j hj hnot
    simp only [wasStarted,Bool.or_eq_false_iff,beq_eq_false_iff_ne] at hnot ⊢
    refine ⟨?_,fun h=>hnot.2 ((hcompleted j).mpr (.inr h))⟩
    intro h
    exact hj (Option.some.inj ((hscheduled.running j).mp h)).symm
  · intro node n h
    cases h
  · intro status h
    cases h
  · intro e h
    cases h
  · have hless:liveNodes nodes scheduler≤liveNodes nodes s.scheduler:=liveNodes_le hlive
    simp only [remainingWork]
    omega

structure Attempting (settings:Settings) (nodes:FMap String ScheduledNode)
  (seen:Signals→Prop) (id:String) (n:ℕ) (s:RunState) : Prop where
 journal:OpenJournal s.journal
 scheduled:Scheduled nodes seen s.scheduler s.ready (some id)
 recorded:Recorded settings s.scheduler.states s.journal.records
 count:(startsOf s.journal.records id).length=n
 limit:n≤attemptLimit settings id

def attemptWork (nodes:FMap String ScheduledNode) (n:ℕ) (s:RunState) : ℕ :=
 102*liveNodes nodes s.scheduler+(102-n)

variable {n:ℕ}

lemma Attempting.spare(h:Attempting settings nodes seen id n s):
  102*liveNodes nodes s.scheduler+1<attemptWork nodes n s:=by
 have hlimit:=h.limit
 have hmax:=(attemptLimit_bounds settings id).2
 unfold maxNodeRetryAttempts at hmax
 unfold attemptWork
 omega

lemma Attempting.conclude(h:Attempting settings nodes seen id n s)(status:OutcomeRunStatus)
  (hstatus:status ≠ .succeeded)(metadata:JournalMetadata)(payload:Option Value):
  Advances settings nodes seen (attemptWork nodes n s) (s.conclude status metadata payload):=by
 have hspare:=h.spare
 exact Advances.stop h.journal h.scheduled h.recorded h.scheduled.unfinished hstatus metadata
  payload (by omega)

lemma Attempting.failRun(h:Attempting settings nodes seen id n s)(metadata:JournalMetadata)
  (payload:Value):
  Advances settings nodes seen (attemptWork nodes n s) (s.failRun metadata payload):=by
 have hspare:=h.spare
 exact Advances.failRun h.journal h.scheduled h.recorded metadata payload (by omega)

variable {node:StartedNode}

section
variable (h:Attempting settings nodes seen node.nodeId n s)
include h

lemma Attempting.failAttempt(error:BlockError)(members:List (String×Value)):
  Advances settings nodes seen (attemptWork nodes n s)
   (failAttempt settings s node n error members):=by
 unfold TestRuntime.failAttempt
 cases hboundary:settings.retryBoundaries.lookup node.nodeId with
 | none=>exact h.failRun _ _
 | some boundary=>
  simp only
  cases hdecide:boundary.policy.decide (boundary.request n error) with
  | stop reason=>exact h.failRun _ _
  | retry delayMs=>
   -- the boundary has an attempt left, so the number of the next one is in its limit
   obtain ⟨hrepeats,hless⟩:=decide_retry hdecide
   have hlimit:attemptLimit settings node.nodeId=boundary.policy.maxAttempts:=by
    simp [attemptLimit,hboundary,hrepeats]
   have hmax:=(attemptLimit_bounds settings node.nodeId).2
   unfold maxNodeRetryAttempts at hmax
   simp only
   rw [record_open h.journal]
   refine ⟨⟨⟨s.ready,some node.nodeId,h.scheduled.afterwards⟩,?_,?_,?_,?_⟩,?_⟩
   · intro h
     cases h
   · intro node' n' heq
     cases heq
     refine ⟨h.journal.append _ _ _,h.scheduled.afterwards,h.recorded.neutral rfl,?_,by omega⟩
     rw [(neutral_concat rfl node.nodeId).1,h.count]
   · intro status h
     cases h
   · intro e h
     cases h
   · simp only [remainingWork,attemptWork]
     omega

lemma Attempting.finishAttempt(outcome:ExecutionOutcome):
  Advances settings nodes seen (attemptWork nodes n s)
   (finishAttempt settings s node n outcome):=by
 cases outcome with
 | value outputs=>exact Advances.complete h.journal h.scheduled h.recorded outputs _ rfl _ h.spare
 | cancelled reason=>exact h.conclude .cancelled nofun _ _
 | denied decision=>exact h.conclude .rejected nofun _ _
 | paused reason=>exact h.conclude .paused nofun _ _
 | budgetExhausted exhaustion=>exact h.conclude .exhausted nofun _ _
 | absent=>exact h.failRun _ _
 | skipped reason=>exact h.failRun _ _
 | failed error=>exact h.failAttempt error _

lemma Attempting.settleAttempt(reason:Option CancelReason)(outcome:ExecutionOutcome):
  Advances settings nodes seen (attemptWork nodes n s)
   (settleAttempt settings environment s node n reason outcome):=by
 unfold TestRuntime.settleAttempt
 simp only
 -- the clock does not matter for the invariant
 have hclock:∀nowMs,Attempting settings nodes seen node.nodeId n
   { s with virtualNowMs:=nowMs,attempts:=s.attempts+1 }:=
  fun _=>⟨h.journal,h.scheduled,h.recorded,h.count,h.limit⟩
 cases expiredAt settings node.nodeId s.virtualNowMs (saturatingAdd s.virtualNowMs
   (durationMs settings node.nodeId n (environment.measuredMs s.attempts))) reason with
 | none=>exact (hclock _).finishAttempt outcome
 | some deadline=>exact (hclock _).failAttempt _ _

end

lemma readToken_frame(environment:Environment)(s:RunState):
  (readToken environment s).2.journal=s.journal ∧
  (readToken environment s).2.scheduler=s.scheduler ∧
  (readToken environment s).2.ready=s.ready ∧
  (readToken environment s).2.control=s.control:=by
 unfold readToken
 cases environment.token with
 | none=>exact ⟨rfl,rfl,rfl,rfl⟩
 | some reason=>exact ⟨rfl,rfl,rfl,rfl⟩

lemma Attempting.readToken(h:Attempting settings nodes seen id n s):
  Attempting settings nodes seen id n (readToken environment s).2:=by
 obtain ⟨hjournal,hscheduler,hready,-⟩:=readToken_frame environment s
 exact ⟨by rw [hjournal];exact h.journal,by rw [hscheduler,hready];exact h.scheduled,
  by rw [hscheduler,hjournal];exact h.recorded,by rw [hjournal];exact h.count,h.limit⟩

lemma makeAttempt_advances(h:RunInv settings nodes seen s)(hcontrol:s.control=.attempt node n):
  Advances settings nodes seen (remainingWork nodes s)
   (makeAttempt settings environment executor s node n):=by
 obtain ⟨hjournal,hscheduled,hrecorded,hcount,hlimit⟩:=h.attempt node n hcontrol
 unfold makeAttempt
 rw [record_open hjournal]
 -- the record of the start
 let t:RunState:={ s with journal:={ s.journal with records:=s.journal.records ++
  [extended s.journal "node_started" (attemptMetadata node.nodeId n)
   (startedPayload settings node.nodeId n) false] } }
 have hstarted:Attempting settings nodes seen node.nodeId n t:=by
  refine ⟨hjournal.append _ _ _,hscheduled,?_,?_,hlimit⟩
  · exact hrecorded.start rfl rfl rfl hcount hlimit ((hscheduled.running _).mpr rfl)
  · show (startsOf (s.journal.records++_) node.nodeId).length=n
    rw [startsOf_concat,if_pos ⟨rfl,rfl⟩,length_append,length_singleton,hcount]
 have hread:Attempting settings nodes seen node.nodeId n (TestRuntime.readToken environment t).2:=
  hstarted.readToken
 have hwork:remainingWork nodes s=attemptWork nodes n (TestRuntime.readToken environment t).2:=by
  simp only [remainingWork,hcontrol,attemptWork,(readToken_frame environment t).2.1]
  rfl
 rw [hwork]
 split
 · next reason u hanswer=>
   rw [show TestRuntime.readToken environment t=_ from hanswer] at hread ⊢
   exact hread.conclude .cancelled nofun _ _
 · next u hanswer=>
   rw [show TestRuntime.readToken environment t=_ from hanswer] at hread ⊢
   cases environment.attemptReason u.attempts with
   | none=>exact hread.settleAttempt none _
   | some reason=>
    simp only
    by_cases htimeout:reason.code=.timeout
    · rw [if_pos htimeout]
      exact hread.settleAttempt (some reason) _
    · rw [if_neg htimeout]
      exact hread.conclude .cancelled nofun _ _

lemma beginNode_advances{started:StartedNode}(hjournal:OpenJournal s.journal)
  (hscheduled:Scheduled nodes seen s.scheduler s.ready (some started.nodeId))
  (hrecorded:Recorded settings s.scheduler.states s.journal.records)
  (hstarts:startsOf s.journal.records started.nodeId=[])
  (hbound:102*liveNodes nodes s.scheduler+102≤bound):
  Advances settings nodes seen bound (beginNode executor s started):=by
 unfold beginNode
 cases executor.preflight started with
 | none=>
  refine ⟨⟨⟨s.ready,_,hscheduled.afterwards⟩,?_,?_,?_,?_⟩,?_⟩
  · intro h
    cases h
  · intro node n h
    cases h
    refine ⟨hjournal,hscheduled.afterwards,hrecorded,by simp [hstarts],?_⟩
    exact (attemptLimit_bounds settings _).1
  · intro status h
    cases h
  · intro e h
    cases h
  · simp only [remainingWork]
    omega
 | some preflight=>
  cases preflight with
  | skipped reason outputs=>
   exact Advances.complete hjournal hscheduled hrecorded outputs _ rfl _ (by omega)
  | failed error=>exact Advances.failRun hjournal hscheduled hrecorded _ _ (by omega)

lemma unfinished_nil{states:FMap String NodeExecutionState}:
  ((sortedKeys states).filterMap fun nodeId=>
   match states.lookup nodeId with
   | none=>none
   | some .completed=>none
   | some state=>some (nodeId,state))=[] ↔
  ∀id,(states.lookup id).isSome=true→states.lookup id=some .completed:=by
 rw [filterMap_eq_nil_iff]
 constructor
 · intro h id hid
   have hnone:=h id (mem_sortedKeys.mpr hid)
   obtain ⟨state,hstate⟩:=Option.isSome_iff_exists.mp hid
   rw [hstate] at hnone ⊢
   cases state <;>first | rfl | cases hnone
 · intro h id hid
   rw [h id (mem_sortedKeys.mp hid)]

lemma closeRun_advances(hjournal:OpenJournal s.journal)
  (hscheduled:Scheduled nodes seen s.scheduler ready current)
  (hrecorded:Recorded settings s.scheduler.states s.journal.records)(hbound:0<bound):
  Advances settings nodes seen bound (closeRun s):=by
 have hall:AllCompleted nodes s.scheduler ↔ ∀id,(s.scheduler.states.lookup id).isSome=true →
   s.scheduler.states.lookup id=some .completed:=by
  simp only [AllCompleted,hscheduled.known]
 rw [←unfinished_nil] at hall
 unfold closeRun
 simp only
 split_ifs with hnil
 · refine Advances.conclude hjournal hscheduled hrecorded _ _ _ ?_ hbound
   exact ⟨fun _=>hall.mpr hnil,fun _=>rfl⟩
 · refine Advances.conclude hjournal hscheduled hrecorded _ _ _ ?_ hbound
   exact ⟨nofun,fun h=>absurd (hall.mp h) hnil⟩

lemma nextNode_advances(h:RunInv settings nodes seen s)(hcontrol:s.control=.next):
  Advances settings nodes seen (remainingWork nodes s) (nextNode environment executor s):=by
 obtain ⟨hjournal,hscheduled,hrecorded⟩:=h.next hcontrol
 have hwork:remainingWork nodes s=102*liveNodes nodes s.scheduler+1:=by
  simp only [remainingWork,hcontrol]
 rw [hwork]
 unfold nextNode
 cases hready:s.ready with
 | nil=>exact closeRun_advances hjournal hscheduled hrecorded (by omega)
 | cons nodeId rest=>
  simp only
  rw [hready] at hscheduled
  obtain ⟨hjournal',hscheduler,hrest,-⟩:=readToken_frame environment { s with ready:=rest }
  generalize readToken environment { s with ready:=rest }=read
   at hjournal' hscheduler hrest ⊢
  obtain ⟨answer,t⟩:=read
  replace hjournal':t.journal=s.journal:=hjournal'
  replace hscheduler:t.scheduler=s.scheduler:=hscheduler
  replace hrest:t.ready=rest:=hrest
  rw [←hjournal'] at hjournal hrecorded
  rw [←hscheduler] at hscheduled hrecorded ⊢
  have hstate:t.scheduler.states.lookup nodeId=some .ready:=
   (hscheduled.queued nodeId).mp mem_cons_self
  cases answer with
  | some reason=>
   have hid:∃state,t.scheduler.states.lookup nodeId=some state∧state ≠ .completed:=
    ⟨.ready,hstate,nofun⟩
   have hcancelled:OutcomeRunStatus.cancelled ≠ .succeeded:=nofun
   exact Advances.stop hjournal hscheduled hrecorded hid hcancelled _ _ (by omega)
  | none=>
   obtain ⟨inputs,hstart,hscheduled'⟩:=hscheduled.start
   simp only
   rw [hstart]
   have hknown:(nodes.lookup nodeId).isSome=true:=by
    rw [←hscheduled.known,hstate]
    rfl
   have hlive:∀u:LocalScheduler,u.states=t.scheduler.states.insert nodeId .running →
     liveNodes nodes u+1≤liveNodes nodes t.scheduler:=
    fun _ hu=>liveNodes_start (by rw [hstate];rfl) rfl hknown hu
   refine beginNode_advances hjournal ?_ (hrecorded.begin hstate) ?_ ?_
   · rw [hrest]
     exact hscheduled'
   · exact hrecorded.unstarted nodeId (by rw [hstate];rfl)
   · have hless:=hlive { t.scheduler with
      states:=t.scheduler.states.insert nodeId .running
      readyInputs:=t.scheduler.readyInputs.erase nodeId } rfl
     simp only at hless ⊢
     omega

lemma step_advances(h:RunInv settings nodes seen s)(hcontrol:∀result,s.control ≠ .finished result):
  Advances settings nodes seen (remainingWork nodes s) (step settings environment executor s):=by
 unfold step
 cases hcase:s.control with
 | next=>exact nextNode_advances h hcase
 | attempt node n=>exact makeAttempt_advances h hcase
 | finished result=>exact absurd hcase (hcontrol result)
end

end GraphBlocks.TestRuntime
