import GraphBlocks.TestRuntimeLiveness

namespace GraphBlocks.TestRuntime
open FiniteMap Json Scheduler Journal List

structure AttemptsKept (settings:Settings) (records:List JournalRecord) : Prop where
 first:(records.head?.map JournalRecord.kind)=some "run_started"
 numbered:∀id,(startsOf records id).map JournalRecord.attemptId =
  (List.range' 1 (startsOf records id).length).map fun n=>some (attemptId n)
 limited:∀id boundary,settings.retryBoundaries.lookup id=some boundary →
  boundary.policy.validate.isOk=true →
  (startsOf records id).length≤boundary.policy.maxAttempts
 effects:∀id boundary,settings.retryBoundaries.lookup id=some boundary →
  boundary.effect.isSome=true→boundary.idempotencyKey.any isExact=false →
  (startsOf records id).length≤1
 once:∀id,settings.retryBoundaries.lookup id=none→(startsOf records id).length≤1
 completed:∀id,(completionsOf records id).length≤1

lemma Recorded.attemptsKept{settings:Settings}{states:FMap String NodeExecutionState}
  {records:List JournalRecord}(h:Recorded settings states records):
  AttemptsKept settings records:=by
 refine ⟨?_,h.numbered,?_,?_,?_,?_⟩
 · obtain ⟨r,rest,rfl,hkind⟩:=h.first
   simp [hkind]
 · intro id boundary hboundary hvalid
   have hbound:=h.bounded id
   have hpositive:=(validate_isOk hvalid).1
   simp only [attemptLimit,hboundary] at hbound
   split at hbound
   · exact hbound
   · omega
 · intro id boundary hboundary heffect hkey
   have hbound:=h.bounded id
   have hrepeats:boundary.repeats=false:=by
    cases hcase:boundary.effect with
    | none=>
     rw [hcase] at heffect
     cases heffect
    | some effect=>simp [NodeRetryBoundary.repeats,hcase,hkey]
   simpa [attemptLimit,hboundary,hrepeats] using hbound
 · intro id hboundary
   have hbound:=h.bounded id
   simpa [attemptLimit,hboundary] using hbound
 · intro id
   rw [h.completions]
   split <;>omega

/-- What a run that has returned leaves: with a status, one terminal record of its kind, the last
one; with an error, none, and then a node gave an output of another node. -/
structure Returned (environment:Environment) (nodes:FMap String ScheduledNode) (s:RunState)
  (result:Except TestRuntimeError OutcomeRunStatus) : Prop where
 status:∀status,result=.ok status →
  (∃earlier last,s.journal.records=earlier++[last]∧last.kind=status.terminalKind ∧
   last.terminal=true ∧ ∀r∈earlier,r.terminal=false) ∧
  (status=.succeeded↔cancelledBefore environment=none∧AllCompleted nodes s.scheduler)
 error:∀e,result=.error e→(∃node other,e=.scheduler (.outputOwnerMismatch node other)∧other≠node) ∧
  ∀r∈s.journal.records,r.terminal=false

def SourcesPublished (run:ℕ→RunState) (n:ℕ) (node:ScheduledNode) : Prop :=
 (∀d∈node.dependencies,((run n).scheduler.signals.lookup d.source).isSome=true) ∨
  ∃condition,node.condition=some condition ∧ ∃m≤n,ConditionUnmet (run m).scheduler.signals condition

section
variable {settings:Settings} {environment:Environment} {executor:OutcomeNodeExecutor}
 {scheduler:LocalScheduler} {runId:String} {nodes:FMap String ScheduledNode}

lemma runInv_returned{seen:Signals→Prop}{s:RunState}(h:RunInv settings nodes seen s)
  (hgoing:cancelledBefore environment=none){result:Except TestRuntimeError OutcomeRunStatus}
  (hcontrol:s.control=.finished result):Returned environment nodes s result:=by
 refine ⟨?_,?_⟩
 · rintro status rfl
   obtain ⟨hended,hstatus⟩:=h.returned status hcontrol
   exact ⟨hended.last,by rw [hstatus];simp [hgoing]⟩
 · rintro e rfl
   have hbroken:=h.failed e hcontrol
   exact ⟨hbroken.foreign,hbroken.journal.open_records⟩

lemma runInv_recorded{seen:Signals→Prop}{s:RunState}(h:RunInv settings nodes seen s):
  Recorded settings s.scheduler.states s.journal.records:=by
 cases hcontrol:s.control with
 | next=>exact (h.next hcontrol).2.2
 | attempt node n=>exact (h.attempt node n hcontrol).2.2.1
 | finished result=>
  cases result with
  | ok status=>exact (h.returned status hcontrol).1.recorded
  | error e=>exact (h.failed e hcontrol).recorded

variable {reason:CancelReason}

lemma stateAt_cancelled(h:cancelledBefore environment=some reason)
  (n:ℕ):stateAt settings environment executor scheduler (.new runId) n =
   startRun environment scheduler (.new runId):=by
 have hcontrol:(stateAt settings environment executor scheduler (.new runId) 0).control =
   .finished (.ok .cancelled):=(startRun_cancelled scheduler runId h).2.1
 exact stateAt_finished hcontrol n (Nat.zero_le n)

lemma cancelled_recorded(hunrun:Unrun scheduler)(h:cancelledBefore environment=some reason):
  Recorded settings (startRun environment scheduler (.new runId)).scheduler.states
   (startRun environment scheduler (.new runId)).journal.records:=by
 obtain ⟨hscheduler,-,hrecords⟩:=startRun_cancelled scheduler runId h
 rw [hscheduler,hrecords]
 refine (recorded_start settings rfl ?_).neutral rfl
 intro id hcompleted
 rw [hunrun.pending] at hcompleted
 cases hnode:scheduler.nodes.lookup id <;>rw [hnode] at hcompleted <;>cases hcompleted

lemma cancelled_returned
  (h:cancelledBefore environment=some reason)(nodes:FMap String ScheduledNode):
  Returned environment nodes (startRun environment scheduler (.new runId)) (.ok .cancelled):=by
 obtain ⟨-,-,hrecords⟩:=startRun_cancelled scheduler runId h
 refine ⟨?_,nofun⟩
 intro status hstatus
 cases hstatus
 refine ⟨⟨_,_,hrecords,rfl,rfl,(openJournal_start runId).open_records⟩,?_⟩
 simp [h]
end

theorem run_ends_once_and_comes_through (settings : Settings) (environment : Environment)
  (executor : OutcomeNodeExecutor) (runId : String) (nodes : List ScheduledNode)
  (values : List (PortRef×Value)) (scheduler : LocalScheduler)
  (hnew : Scheduler.new nodes=.ok scheduler) :
  let start := withInitialValues scheduler values
  let run:=stateAt settings environment executor start (.new runId)
  (∃n result,(run n).control=.finished result∧Returned environment start.nodes (run n) result) ∧
  (∀n,AttemptsKept settings (run n).journal.records) ∧
  (∀n node attempt,(run n).control=.attempt node attempt →
   (run n).scheduler.states.lookup node.nodeId=some .running) ∧
  (∀n id node,start.nodes.lookup id=some node →
   wasReady ((run n).scheduler.states.lookup id)=true→SourcesPublished run n node) ∧
  (Workable start.nodes start.signals→Untroubled settings environment executor start.nodes run →
   ∃n,(run n).control=.finished (.ok .succeeded)∧Executed start.nodes (run n).journal.records) := by
 intro start run
 have hunrun:Unrun start:=(new_unrun hnew).withInitialValues values
 cases hcancelled:cancelledBefore environment with
 | some reason=>
  have hrun:∀n,run n=startRun environment start (.new runId):=stateAt_cancelled hcancelled
  obtain ⟨hscheduler,hcontrol,-⟩:=startRun_cancelled start runId hcancelled
  refine ⟨⟨0,_,(by rw [hrun];exact hcontrol),?_⟩,?_,?_,?_,?_⟩
  · rw [hrun]
    exact cancelled_returned hcancelled start.nodes
  · intro n
    rw [hrun]
    exact (cancelled_recorded hunrun hcancelled).attemptsKept
  · intro n node attempt hattempt
    rw [hrun,hcontrol] at hattempt
    cases hattempt
  · intro n id node hnode hready
    rw [hrun,hscheduler,hunrun.pending,hnode] at hready
    cases hready
  · intro _ huntroubled
    rw [huntroubled.going] at hcancelled
    cases hcancelled
 | none=>
  have hinv:∀n,RunInv settings start.nodes (seenAt run n) (run n):=runInv_stateAt hunrun hcancelled
  obtain ⟨n,result,hcontrol⟩:∃n result,(run n).control=.finished result:=
   eventually_finished hunrun hcancelled
  refine ⟨⟨n,result,hcontrol,runInv_returned (hinv n) hcancelled hcontrol⟩,?_,?_,?_,?_⟩
  · intro m
    exact (runInv_recorded (hinv m)).attemptsKept
  · intro m node attempt hattempt
    exact (((hinv m).attempt node attempt hattempt).2.1.running node.nodeId).mpr rfl
  · intro m id node hnode hready
    -- the verdict that made the node ready was passed on signals of this run
    obtain ⟨ready,current,hscheduled⟩:=(hinv m).scheduled
    obtain ⟨signals,inputs,⟨k,hk,rfl⟩,hverdict⟩:=hscheduled.released id node hnode hready
    rcases nodeReadiness_published hverdict with hpublished|⟨condition,hcondition,hunmet⟩
    · left
      intro d hd
      exact hscheduled.monotone _ ⟨k,hk,rfl⟩ d.source (hpublished d hd)
    · exact .inr ⟨condition,hcondition,k,hk,hunmet⟩
  · intro hgraph huntroubled
    have hflow:FlowInv start.nodes (run n):=flowInv_stateAt hunrun hgraph huntroubled n
    obtain ⟨rfl,hexecuted⟩:=hflow.executed result hcontrol
    exact ⟨n,hcontrol,hexecuted⟩

def noSettings : Settings := ⟨∅,∅,∅,∅⟩

def quiet : Environment := ⟨none,fun _=>none,fun _=>0⟩

/-- An executor that gives one output, of the port `out` of a node. -/
def outputExecutor (owner:StartedNode→String) : OutcomeNodeExecutor where
 preflight _:=none
 execute started _:=.value [(⟨owner started,"out"⟩,.value .null)]

def readsOut (id source:String) (condition:Option ScheduledCondition) : ScheduledNode :=
 ⟨id,[⟨"in",⟨source,"out"⟩,[],.value⟩],condition⟩

/-- The scheduler of two nodes, the second of which reads the first. -/
def chainScheduler : LocalScheduler :=
 ⟨false,AList.insert "b" (readsOut "b" "a" none) (AList.insert "a" ⟨"a",[],none⟩ ∅),
  AList.insert "b" .pending (AList.insert "a" .pending ∅),∅,∅⟩

lemma chain_lookup{id:String}{node:ScheduledNode}(h:chainScheduler.nodes.lookup id=some node):
  (id="b"∧node=readsOut "b" "a" none)∨(id="a"∧node=⟨"a",[],none⟩):=by
 simp only [chainScheduler,lookup_insert_eq] at h
 by_cases hb:id="b"
 · rw [if_pos hb] at h
   exact .inl ⟨hb,(Option.some.inj h).symm⟩
 · rw [if_neg hb] at h
   by_cases ha:id="a"
   · rw [if_pos ha] at h
     exact .inr ⟨ha,(Option.some.inj h).symm⟩
   · rw [if_neg ha] at h
     cases h

lemma chain_depends{id source:String}(h:DependsOn chainScheduler.nodes id source):
  id="b"∧source="a":=by
 obtain ⟨node,hnode,⟨d,hd,rfl⟩,-⟩:=h
 rcases chain_lookup hnode with ⟨rfl,rfl⟩|⟨rfl,rfl⟩
 · simp only [readsOut,mem_singleton] at hd
   exact ⟨rfl,by rw [hd]⟩
 · cases hd

lemma chain_workable:Workable chainScheduler.nodes chainScheduler.signals:=by
 refine ⟨?_,?_,?_,?_⟩
 · intro id hcycle
   obtain ⟨next,hfirst,-⟩:=Relation.TransGen.head'_iff.mp hcycle
   obtain ⟨previous,-,hlast⟩:=Relation.TransGen.tail'_iff.mp hcycle
   have hb:=(chain_depends hfirst).1
   rw [(chain_depends hlast).2] at hb
   exact absurd hb (by decide)
 · intro id node hnode
   rcases chain_lookup hnode with ⟨-,rfl⟩|⟨-,rfl⟩ <;>rfl
 · intro id node hnode d hd hnone
   rcases chain_lookup hnode with ⟨-,rfl⟩|⟨-,rfl⟩
   · simp only [readsOut,mem_singleton] at hd
     subst hd
     exact absurd hnone (by decide)
   · cases hd
 · intro port hport
   cases hport

theorem chain_comes_through :
  let run := stateAt noSettings quiet (outputExecutor StartedNode.nodeId) chainScheduler
   (.new "run-1")
  ∃n,(run n).control=.finished (.ok .succeeded) ∧
   Executed chainScheduler.nodes (run n).journal.records := by
 have huntroubled:Untroubled noSettings quiet (outputExecutor StartedNode.nodeId)
   chainScheduler.nodes (stateAt noSettings quiet (outputExecutor StartedNode.nodeId)
    chainScheduler (.new "run-1")):=by
  refine ⟨nofun,fun _=>rfl,fun _=>rfl,fun _ _ _ _=>rfl,?_⟩
  intro n node attempt _
  refine ⟨_,rfl,by simp,?_⟩
  intro reader scheduled hscheduled d hd hsource
  rcases chain_lookup hscheduled with ⟨-,rfl⟩|⟨-,rfl⟩
  · simp only [readsOut,mem_singleton] at hd
    subst hd
    refine ⟨.null,?_,rfl⟩
    show AList.lookup _ (AList.insert (PortRef.mk node.nodeId "out") _ ∅)=_
    rw [←hsource,lookup_insert_eq,if_pos rfl]
  · cases hd
 exact (run_ends_once_and_comes_through noSettings quiet (outputExecutor StartedNode.nodeId)
  "run-1" [⟨"a",[],none⟩,readsOut "b" "a" none] [] chainScheduler (by rfl)).2.2.2.2
  chain_workable huntroubled

def attempts (s:RunState) (id:String) : Bool :=
 match s.control with
 | .attempt node _=>node.nodeId==id
 | _=>false

def returnedError (s:RunState) : Bool :=
 match s.control with
 | .finished (.error _)=>true
 | _=>false

/-- A node whose condition is false is started although nothing publishes what it reads, and a run
in which a node gives an output of another one ends without a terminal record. -/
theorem conditional_node_starts_unsupplied :
  (∃scheduler,Scheduler.new [readsOut "a" "z" (some ⟨"when",⟨"input","flag"⟩,[]⟩)] = .ok scheduler ∧
   attempts (stateAt noSettings quiet (outputExecutor StartedNode.nodeId)
    (withInitialValues scheduler [(⟨"input","flag"⟩,.bool false)]) (.new "run-1") 1) "a" = true ∧
   ((stateAt noSettings quiet (outputExecutor StartedNode.nodeId)
    (withInitialValues scheduler [(⟨"input","flag"⟩,.bool false)]) (.new "run-1")
    1).scheduler.signals.lookup ⟨"z","out"⟩).isNone=true) ∧
  (∃scheduler,Scheduler.new [⟨"a",[],none⟩]=.ok scheduler ∧
   returnedError (stateAt noSettings quiet (outputExecutor fun _ => "z") scheduler
    (.new "run-1") 2)=true ∧
   (stateAt noSettings quiet (outputExecutor fun _ => "z") scheduler
    (.new "run-1") 2).journal.records.all (fun r => !r.terminal)=true) := by
 refine ⟨⟨_,rfl,?_,?_⟩,⟨_,rfl,?_,?_⟩⟩
 · decide +kernel
 · decide +kernel
 · decide +kernel
 · decide +kernel

end GraphBlocks.TestRuntime
