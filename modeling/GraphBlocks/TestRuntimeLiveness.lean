import GraphBlocks.TestRuntimeRuns
import Mathlib.Order.WellFounded
import Mathlib.Data.Fintype.Card

namespace GraphBlocks.TestRuntime
open FiniteMap Json Scheduler Journal List Option

def Supplies (signal:Option Outcome) (path:List String) : Prop :=
 ∃v,signal=some (.value v)∧(resolvePath v path).isSome=true

/-- The condition was evaluated and is not true, so the node runs without its inputs. -/
def ConditionUnmet (signals:Signals) (condition:ScheduledCondition) : Prop :=
 (∃v,signals.lookup condition.source=some (.value v)∧conditionHolds v condition.path=false) ∨
 ∃reason,signals.lookup condition.source=some (.skipped reason)

variable {node:ScheduledNode}

section
variable {signals:Signals}

lemma readinessLoop_published(deps:List InputDependency)(missing:List PortRef)
  (resolved inputs:Inputs)(h:readinessLoop signals deps missing resolved=.ready inputs):
  ∀d∈deps,(signals.lookup d.source).isSome=true:=by
 induction deps generalizing missing resolved with
 | nil=>
  intro d hd
  cases hd
 | cons d rest ih=>
  intro e he
  cases hl:signals.lookup d.source with
  | none=>
   rw [readinessLoop,hl] at h
   exact absurd h (readinessLoop_ne_ready rest _ _ _ (by simp))
  | some outcome=>
   -- the source of this dependency is published, the loop goes on with the rest
   have hrest:∃missing' resolved',readinessLoop signals rest missing' resolved'=.ready inputs:=by
    rw [readinessLoop,hl] at h
    cases outcome with
    | value v=>
     simp only at h
     cases hpath:resolvePath v d.sourcePath with
     | none=>
      rw [hpath] at h
      cases h
     | some nested=>
      rw [hpath] at h
      exact ⟨_,_,h⟩
    | _=>
     simp only at h
     cases hmode:d.mode with
     | value=>
      rw [hmode] at h
      cases h
     | outcome=>
      rw [hmode] at h
      exact ⟨_,_,h⟩
   obtain ⟨missing',resolved',hrest⟩:=hrest
   rcases mem_cons.mp he with rfl|he
   · rw [hl]
     rfl
   · exact ih missing' resolved' hrest e he

lemma nodeReadiness_published{inputs:Inputs}(h:nodeReadiness signals node=.ready inputs):
  (∀d∈node.dependencies,(signals.lookup d.source).isSome=true) ∨
   ∃condition,node.condition=some condition∧ConditionUnmet signals condition:=by
 unfold nodeReadiness at h
 cases hcondition:node.condition with
 | none=>
  rw [hcondition] at h
  exact .inl (readinessLoop_published _ _ _ _ h)
 | some condition=>
  rw [hcondition] at h
  simp only at h
  cases hl:signals.lookup condition.source with
  | none=>
   rw [hl] at h
   cases h
  | some outcome=>
   rw [hl] at h
   cases outcome with
   | value v=>
    simp only at h
    by_cases hholds:conditionHolds v condition.path=true
    · rw [if_pos hholds] at h
      cases hready:readiness signals node.dependencies with
      | ready resolved=>exact .inl (readinessLoop_published _ _ _ _ hready)
      | waiting missing=>
       rw [hready] at h
       cases h
      | blocked input source outcome=>
       rw [hready] at h
       cases h
    · exact .inr ⟨condition,rfl,.inl ⟨v,hl,by simpa using hholds⟩⟩
   | skipped reason=>exact .inr ⟨condition,rfl,.inr ⟨reason,hl⟩⟩
   | _=>cases h

lemma readinessLoop_supplied(deps:List InputDependency)(missing:List PortRef)(resolved:Inputs)
  (h:∀d∈deps,signals.lookup d.source=none∨Supplies (signals.lookup d.source) d.sourcePath):
  (readinessLoop signals deps missing resolved).isBlocked=false ∧
  ((readinessLoop signals deps missing resolved).isWaiting=true →
   missing≠[] ∨ ∃d∈deps,signals.lookup d.source=none):=by
 induction deps generalizing missing resolved with
 | nil=>
  cases missing with
  | nil=>exact ⟨rfl,nofun⟩
  | cons port ports=>exact ⟨rfl,fun _=>.inl (by simp)⟩
 | cons d rest ih=>
  have hrest:∀e∈rest,signals.lookup e.source=none∨Supplies (signals.lookup e.source) e.sourcePath:=
   fun e he=>h e (mem_cons_of_mem _ he)
  rcases h d mem_cons_self with hnone|⟨v,hvalue,hpath⟩
  · have heq:readinessLoop signals (d::rest) missing resolved =
      readinessLoop signals rest (missing++[d.source]) resolved:=by
     rw [readinessLoop,hnone]
    rw [heq]
    exact ⟨(ih _ _ hrest).1,fun _=>.inr ⟨d,mem_cons_self,hnone⟩⟩
  · obtain ⟨nested,hnested⟩:=isSome_iff_exists.mp hpath
    have heq:∃resolved',readinessLoop signals (d::rest) missing resolved =
      readinessLoop signals rest missing resolved':=by
     rw [readinessLoop,hvalue]
     simp only [hnested]
     exact ⟨_,rfl⟩
    obtain ⟨resolved',heq⟩:=heq
    rw [heq]
    refine ⟨(ih _ _ hrest).1,?_⟩
    intro hwaiting
    rcases (ih _ _ hrest).2 hwaiting with hmissing|⟨e,he,hnone⟩
    · exact .inl hmissing
    · exact .inr ⟨e,mem_cons_of_mem _ he,hnone⟩
end

/-- The node reads a port of the other one. -/
def DependsOn (nodes:FMap String ScheduledNode) (id source:String) : Prop :=
 ∃node,nodes.lookup id=some node∧(∃d∈node.dependencies,d.source.node=source) ∧
  (nodes.lookup source).isSome=true

/-- An acyclic graph without conditions. What is read from outside the graph is given at the
start, and nothing else is. -/
structure Workable (nodes:FMap String ScheduledNode) (initial:Signals) : Prop where
 acyclic:∀id,¬Relation.TransGen (DependsOn nodes) id id
 unconditional:∀id node,nodes.lookup id=some node→node.condition=none
 supplied:∀id node,nodes.lookup id=some node → ∀d∈node.dependencies,
  nodes.lookup d.source.node=none→Supplies (initial.lookup d.source) d.sourcePath
 foreign:∀port,(initial.lookup port).isSome=true→nodes.lookup port.node=none

def outputSignals (outputs:List (PortRef×Outcome)) : Signals :=
 outputs.foldl (fun m o=>m.insert o.1 o.2) ∅

def Produces (nodes:FMap String ScheduledNode) (id:String) (outcome:ExecutionOutcome) : Prop :=
 ∃outputs,outcome=.value outputs∧(∀o∈outputs,o.1.node=id) ∧
  ∀reader node,nodes.lookup reader=some node → ∀d∈node.dependencies,d.source.node=id →
   Supplies ((outputSignals outputs).lookup d.source) d.sourcePath

/-- The attempt ends before its deadline, if it has one. -/
def InTime (settings:Settings) (environment:Environment) (s:RunState) (id:String)
  (attempt:ℕ) : Prop :=
 expiredAt settings id s.virtualNowMs (saturatingAdd s.virtualNowMs
  (durationMs settings id attempt (environment.measuredMs s.attempts))) none=none

/-- Nobody cancels the run, its nodes are not settled before they are executed, and every
execution of the run ends in time and produces what is read of it. -/
structure Untroubled (settings:Settings) (environment:Environment)
  (executor:OutcomeNodeExecutor) (nodes:FMap String ScheduledNode) (run:ℕ→RunState) :
  Prop where
 token:∀token n,environment.token=some token→token n=none
 attemptReason:∀n,environment.attemptReason n=none
 preflight:∀started,executor.preflight started=none
 inTime:∀n node attempt,(run n).control=.attempt node attempt →
  InTime settings environment (run n) node.nodeId attempt
 produces:∀n node attempt,(run n).control=.attempt node attempt →
  Produces nodes node.nodeId (executor.execute node attempt)

def startOrder (records:List JournalRecord) : List String :=
 records.filterMap fun r=>if r.kind = "node_started" then r.nodeId else none

def Topological (nodes:FMap String ScheduledNode) (order:List String) : Prop :=
 ∀earlier id later,order=earlier++id::later → ∀source,DependsOn nodes id source→source∈earlier

lemma startOrder_concat(records:List JournalRecord)(r:JournalRecord):
  startOrder (records++[r])=startOrder records ++
   ((if r.kind="node_started" then r.nodeId else none).toList):=by
 unfold startOrder
 rw [filterMap_append]
 cases h:(if r.kind="node_started" then r.nodeId else none) <;>simp [h]

variable {id:String}

lemma Topological.concat{nodes:FMap String ScheduledNode}{order:List String}
  (h:Topological nodes order)(hid:∀source,DependsOn nodes id source→source∈order):
  Topological nodes (order++[id]):=by
 intro earlier j later heq source hsource
 rcases eq_nil_or_concat later with rfl|⟨rest,last,rfl⟩
 · obtain ⟨rfl,hj⟩:=append_inj' heq rfl
   cases hj
   exact hid source hsource
 · have hsplit:order++[id]=(earlier++j::rest)++[last]:=by
    rw [heq]
    simp
   obtain ⟨hfront,-⟩:=append_inj' hsplit rfl
   exact h earlier j rest hfront source hsource

/-- Exactly the completed nodes have published, and what they published supplies their readers. -/
structure Supplied (nodes:FMap String ScheduledNode) (s:LocalScheduler) : Prop where
 completed:∀port,(s.signals.lookup port).isSome=true →
  (nodes.lookup port.node).isSome=true→s.states.lookup port.node=some .completed
 readers:∀id node,nodes.lookup id=some node → ∀d∈node.dependencies,
  nodes.lookup d.source.node=none∨s.states.lookup d.source.node=some .completed →
  Supplies (s.signals.lookup d.source) d.sourcePath

variable {outputs:List (PortRef×Outcome)}

section
variable {nodes:FMap String ScheduledNode} {initial:Signals} {s:LocalScheduler}

lemma Supplied.dependency(h:Supplied nodes s)
  (hnode:nodes.lookup id=some node){d:InputDependency}(hd:d∈node.dependencies):
  s.signals.lookup d.source=none∨Supplies (s.signals.lookup d.source) d.sourcePath:=by
 cases hl:s.signals.lookup d.source with
 | none=>exact .inl rfl
 | some outcome=>
  right
  rw [←hl]
  apply h.readers id node hnode d hd
  cases hsource:nodes.lookup d.source.node with
  | none=>exact .inl rfl
  | some source=>exact .inr (h.completed d.source (by rw [hl];rfl) (by rw [hsource];rfl))

lemma Supplied.verdict(h:Supplied nodes s)(hgraph:Workable nodes initial)
  (hnode:nodes.lookup id=some node):
  (nodeReadiness s.signals node).isBlocked=false ∧
  ((nodeReadiness s.signals node).isWaiting=true →
   ∃d∈node.dependencies,s.signals.lookup d.source=none):=by
 have heq:nodeReadiness s.signals node=readiness s.signals node.dependencies:=by
  simp [nodeReadiness,hgraph.unconditional id node hnode]
 obtain ⟨hblocked,hwaiting⟩:=readinessLoop_supplied node.dependencies [] ∅
  (fun d hd=>h.dependency hnode hd)
 rw [heq]
 refine ⟨hblocked,?_⟩
 intro hw
 rcases hwaiting hw with hnil|hmissing
 · exact absurd rfl hnil
 · exact hmissing

def Unblocked (s:LocalScheduler) : Prop :=
 ∀id,s.states.lookup id≠some .blocked∧s.states.lookup id≠some .cancelled

lemma Unblocked.evaluate(hblocked:Unblocked s)(h:Supplied nodes s)
  (hgraph:Workable nodes initial)(hnodes:s.nodes=nodes):Unblocked (evaluateReadiness s).2:=by
 intro id
 rw [(evaluateReadiness_effect s).2.1]
 cases hnode:s.nodes.lookup id with
 | none=>
  rw [evaluatedState_other (.inl hnode)]
  exact hblocked id
 | some node=>
  by_cases hpending:s.states.lookup id=some .pending
  · have hverdict:=(h.verdict hgraph (hnodes▸hnode)).1
    rw [evaluatedState_pending hnode hpending]
    cases hcase:nodeReadiness s.signals node with
    | ready inputs=>simp [verdictState]
    | waiting missing=>simp [verdictState]
    | blocked input source outcome=>
     rw [hcase] at hverdict
     cases hverdict
  · rw [evaluatedState_other (.inr hpending)]
    exact hblocked id

lemma evaluateReadiness_completed(s:LocalScheduler)(id:String):
  (evaluateReadiness s).2.states.lookup id=some .completed↔s.states.lookup id=some .completed:=by
 rw [(evaluateReadiness_effect s).2.1]
 constructor
 · exact evaluatedState_completed
 · intro hid
   rw [evaluatedState_other (.inr (by simp [hid])),hid]

lemma Supplied.evaluate(h:Supplied nodes s):Supplied nodes (evaluateReadiness s).2:=by
 have hsame:=(evaluateReadiness_effect s).1
 refine ⟨?_,?_⟩
 · intro port hport hnode
   rw [hsame.signals] at hport
   rw [evaluateReadiness_completed]
   exact h.completed port hport hnode
 · intro id node hnode d hd hsource
   rw [evaluateReadiness_completed] at hsource
   rw [hsame.signals]
   exact h.readers id node hnode d hd hsource

lemma lookup_publish(outputs:List (PortRef×Outcome))(signals:Signals)(port:PortRef):
  AList.lookup port (outputs.foldl (fun m o=>m.insert o.1 o.2) signals) =
   ((outputSignals outputs).lookup port).or (signals.lookup port):=by
 induction outputs using List.reverseRecOn with
 | nil=>simp [outputSignals]
 | append_singleton rest o ih=>
  simp only [outputSignals,foldl_append,foldl_cons,foldl_nil,lookup_insert_eq]
  by_cases hport:port=o.1
  · rw [if_pos hport,if_pos hport]
    rfl
  · rw [if_neg hport,if_neg hport]
    exact ih

lemma lookup_published_own(outputs:List (PortRef×Outcome))(hown:∀o∈outputs,o.1.node=id)
  {port:PortRef}(hport:port.node≠id):(outputSignals outputs).lookup port=none:=by
 induction outputs using List.reverseRecOn with
 | nil=>rfl
 | append_singleton rest o ih=>
  have hne:port≠o.1:=by
   rintro rfl
   exact hport (hown o (by simp))
  simp only [outputSignals,foldl_append,foldl_cons,foldl_nil,lookup_insert_eq,if_neg hne]
  exact ih (fun o' ho'=>hown o' (by simp [ho']))

/-- The scheduler in which a node has just completed, before the others are evaluated. -/
def completedState (s:LocalScheduler) (id:String) (outputs:List (PortRef×Outcome)) :
  LocalScheduler :=
 { publishAll s outputs with states:=s.states.insert id .completed }

lemma Supplied.complete(h:Supplied nodes s)(hproduces:Produces nodes id (.value outputs)):
  Supplied nodes (completedState s id outputs):=by
 obtain ⟨outputs',heq,hown,hreads⟩:=hproduces
 cases heq
 have hself:(completedState s id outputs).states.lookup id=some .completed:=by simp [completedState]
 have hother:∀j,j≠id→(completedState s id outputs).states.lookup j=s.states.lookup j:=by
  intro j hj
  simp only [completedState,lookup_insert_eq,if_neg hj]
 have hsignals:∀port,(completedState s id outputs).signals.lookup port =
   ((outputSignals outputs).lookup port).or (s.signals.lookup port):=lookup_publish outputs s.signals
 refine ⟨?_,?_⟩
 · intro port hport hnode
   by_cases hj:port.node=id
   · rw [hj]
     exact hself
   · rw [hsignals,lookup_published_own outputs hown hj,none_or] at hport
     rw [hother _ hj]
     exact h.completed port hport hnode
 · intro reader node hnode d hd hsource
   rw [hsignals]
   by_cases hj:d.source.node=id
   · obtain ⟨v,hv,hpath⟩:=hreads reader node hnode d hd hj
     rw [hv]
     exact ⟨v,rfl,hpath⟩
   · rw [lookup_published_own outputs hown hj,none_or]
     rw [hother _ hj] at hsource
     exact h.readers reader node hnode d hd hsource

lemma completeNode_own(hrunning:s.states.lookup id=some .running)(hown:∀o∈outputs,o.1.node=id):
  completeNode s id outputs=(.ok (evaluateReadiness (completedState s id outputs)).1,
   (evaluateReadiness (completedState s id outputs)).2):=by
 have hfind:outputs.find? (fun o=>o.1.node≠id)=none:=by
  rw [List.find?_eq_none]
  intro o ho
  simp [hown o ho]
 simp only [completeNode,hrunning,hfind]
 rfl

/-- With an empty queue and nothing running, a node that is not completed depends on another one
that is not. The graph has no cycle, so there is none. -/
lemma allCompleted_of_idle{seen:Signals→Prop}(h:Scheduled nodes seen s [] none)
  (hgraph:Workable nodes initial)(hsupplied:Supplied nodes s)(hblocked:Unblocked s):
  AllCompleted nodes s:=by
 have hstate:∀id,(nodes.lookup id).isSome=true →
   s.states.lookup id=some .pending∨s.states.lookup id=some .completed:=by
  intro id hid
  rw [←h.known] at hid
  obtain ⟨state,hstate⟩:=isSome_iff_exists.mp hid
  have hready:s.states.lookup id≠some .ready:=fun hr=>nomatch (h.queued id).mpr hr
  have hrunning:s.states.lookup id≠some .running:=fun hr=>nomatch (h.running id).mp hr
  obtain ⟨hb,hc⟩:=hblocked id
  rw [hstate] at hready hrunning hb hc ⊢
  cases state with
  | pending=>exact .inl rfl
  | completed=>exact .inr rfl
  | ready=>exact absurd rfl hready
  | running=>exact absurd rfl hrunning
  | blocked=>exact absurd rfl hb
  | cancelled=>exact absurd rfl hc
 have hpred:∀id,(nodes.lookup id).isSome=true→s.states.lookup id=some .pending →
   ∃source,DependsOn nodes id source∧s.states.lookup source=some .pending:=by
  intro id hid hpending
  obtain ⟨node,hnode⟩:=isSome_iff_exists.mp hid
  obtain ⟨d,hd,hnone⟩:=(hsupplied.verdict hgraph hnode).2 (h.waiting id node hnode hpending)
  -- the missing source belongs to a node that has not completed
  have hunsupplied:¬Supplies (s.signals.lookup d.source) d.sourcePath:=by
   rintro ⟨v,hv,-⟩
   rw [hnone] at hv
   cases hv
  have howned:(nodes.lookup d.source.node).isSome=true:=by
   by_contra hnot
   have hlookup:nodes.lookup d.source.node=none:=by simpa using hnot
   exact hunsupplied (hsupplied.readers id node hnode d hd (.inl hlookup))
  refine ⟨d.source.node,⟨node,hnode,⟨d,hd,rfl⟩,howned⟩,?_⟩
  rcases hstate _ howned with hp|hc
  · exact hp
  · exact absurd (hsupplied.readers id node hnode d hd (.inr hc)) hunsupplied
 -- a minimal pending node in the order of the dependencies
 let Node:={id:String // (nodes.lookup id).isSome=true}
 have hfinite:Finite Node:=
  ((finite_toSet (sortedKeys nodes)).subset fun id hid=>mem_sortedKeys.mpr hid).to_subtype
 let below:Node→Node→Prop:=fun a b=>Relation.TransGen (DependsOn nodes) b.1 a.1
 have htrans:IsTrans Node below:=⟨fun a b c hab hbc=>hbc.trans hab⟩
 have hirrefl:Std.Irrefl below:=⟨fun a=>hgraph.acyclic a.1⟩
 have hwf:WellFounded below:=Finite.wellFounded_of_trans_of_irrefl below
 intro id hid
 rcases hstate id hid with hpending|hcompleted
 · obtain ⟨⟨m,hm⟩,hmin,hleast⟩:=
    hwf.has_min {a:Node | s.states.lookup a.1=some .pending} ⟨⟨id,hid⟩,hpending⟩
   obtain ⟨source,hdepends,hsource⟩:=hpred m hm hmin
   obtain ⟨_,_,_,howned⟩:=hdepends
   exact absurd (Relation.TransGen.single ⟨_,‹_›,‹_›,howned⟩)
    (hleast ⟨source,howned⟩ hsource)
 · exact hcompleted
end

structure Executed (nodes:FMap String ScheduledNode) (records:List JournalRecord) : Prop where
 nodup:(startOrder records).Nodup
 members:∀id,id∈startOrder records↔(nodes.lookup id).isSome=true
 topological:Topological nodes (startOrder records)

/-- The completed nodes were executed once each, in an order of their dependencies, and the
others wait for nothing but them. -/
structure Flowing (nodes:FMap String ScheduledNode) (scheduler:LocalScheduler)
  (records:List JournalRecord) : Prop where
 unblocked:Unblocked scheduler
 supplied:Supplied nodes scheduler
 nodup:(startOrder records).Nodup
 members:∀id,id∈startOrder records↔scheduler.states.lookup id=some .completed
 topological:Topological nodes (startOrder records)

structure FlowInv (nodes:FMap String ScheduledNode) (s:RunState) : Prop where
 flowing:(∀result,s.control ≠ .finished result)→Flowing nodes s.scheduler s.journal.records
 first:∀node n,s.control=.attempt node n→n=1
 executed:∀result,s.control=.finished result → result=.ok .succeeded ∧
  Executed nodes s.journal.records

section
variable {settings:Settings} {environment:Environment} {executor:OutcomeNodeExecutor}
 {nodes:FMap String ScheduledNode} {initial:Signals} {seen:Signals→Prop} {s:RunState}

lemma startOrder_other(records:List JournalRecord){r:JournalRecord}
  (h:r.kind≠"node_started"):startOrder (records++[r])=startOrder records:=by
 rw [startOrder_concat,if_neg h]
 simp

lemma closeRun_flows(h:RunInv settings nodes seen s)(hcontrol:s.control=.next)
  (hready:s.ready=[])(hgraph:Workable nodes initial)
  (hflow:Flowing nodes s.scheduler s.journal.records):FlowInv nodes (closeRun s):=by
 obtain ⟨hjournal,hscheduled,-⟩:=h.next hcontrol
 rw [hready] at hscheduled
 have hall:=allCompleted_of_idle hscheduled hgraph hflow.supplied hflow.unblocked
 have hunfinished:=unfinished_nil.mpr (fun id hid=>hall id (by rwa [←hscheduled.known]))
 have heq:closeRun s=s.conclude .succeeded .new none:=by
  unfold closeRun
  exact if_pos hunfinished
 rw [heq,conclude_open hjournal]
 refine ⟨fun hgoing=>absurd rfl (hgoing _),nofun,?_⟩
 intro result hresult
 cases hresult
 refine ⟨rfl,?_⟩
 have hkind:(extended s.journal OutcomeRunStatus.succeeded.terminalKind .new none true).kind ≠
   "node_started" := by
  show "run_succeeded"≠"node_started"
  decide
 have horder:=startOrder_other s.journal.records hkind
 refine ⟨?_,?_,?_⟩
 · rw [horder]
   exact hflow.nodup
 · intro id
   rw [horder,hflow.members]
   constructor
   · intro hcompleted
     rw [←hscheduled.known,hcompleted]
     rfl
   · exact hall id
 · rw [horder]
   exact hflow.topological

lemma readToken_quiet(h:∀token n,environment.token=some token→token n=none)
  (s:RunState):(readToken environment s).1=none:=by
 unfold readToken
 cases htoken:environment.token with
 | none=>rfl
 | some token=>exact h token s.reads htoken

variable {records:List JournalRecord} {scheduler:LocalScheduler}

lemma Flowing.start(h:Flowing nodes scheduler records)
  (hready:scheduler.states.lookup id=some .ready){t:LocalScheduler}
  (hstates:t.states=scheduler.states.insert id .running)
  (hsignals:t.signals=scheduler.signals):Flowing nodes t records:=by
 have hcompleted:∀j,t.states.lookup j=some .completed↔scheduler.states.lookup j=some .completed:=by
  intro j
  rw [hstates,lookup_insert_eq]
  by_cases hj:j=id
  · subst hj
    simp [hready]
  · rw [if_neg hj]
 refine ⟨?_,⟨?_,?_⟩,h.nodup,?_,h.topological⟩
 · intro j
   rw [hstates,lookup_insert_eq]
   by_cases hj:j=id
   · simp [hj]
   · rw [if_neg hj]
     exact h.unblocked j
 · intro port hport hnode
   rw [hsignals] at hport
   rw [hcompleted]
   exact h.supplied.completed port hport hnode
 · intro reader node hnode d hd hsource
   rw [hcompleted] at hsource
   rw [hsignals]
   exact h.supplied.readers reader node hnode d hd hsource
 · intro j
   rw [hcompleted]
   exact h.members j

lemma nextNode_flows(h:RunInv settings nodes seen s)(hcontrol:s.control=.next)
  (hgraph:Workable nodes initial)(htoken:∀token n,environment.token=some token→token n=none)
  (hpreflight:∀started,executor.preflight started=none)
  (hflow:Flowing nodes s.scheduler s.journal.records):
  FlowInv nodes (nextNode environment executor s):=by
 obtain ⟨hjournal,hscheduled,-⟩:=h.next hcontrol
 unfold nextNode
 cases hready:s.ready with
 | nil=>exact closeRun_flows h hcontrol hready hgraph hflow
 | cons nodeId rest=>
  simp only
  rw [hready] at hscheduled
  have hquiet:=readToken_quiet htoken { s with ready:=rest }
  obtain ⟨hjournal',hscheduler,-,-⟩:=readToken_frame environment { s with ready:=rest }
  generalize readToken environment { s with ready:=rest }=read
   at hquiet hjournal' hscheduler ⊢
  obtain ⟨answer,t⟩:=read
  cases hquiet
  replace hjournal':t.journal=s.journal:=hjournal'
  replace hscheduler:t.scheduler=s.scheduler:=hscheduler
  rw [←hscheduler] at hscheduled hflow
  rw [←hjournal'] at hflow
  have hstate:t.scheduler.states.lookup nodeId=some .ready:=
   (hscheduled.queued nodeId).mp mem_cons_self
  obtain ⟨inputs,hstart,-⟩:=hscheduled.start
  simp only
  rw [hstart]
  simp only [beginNode,hpreflight]
  refine ⟨fun _=>hflow.start hstate rfl rfl,?_,nofun⟩
  intro node n heq
  cases heq
  rfl

lemma Flowing.sources{ready:List String}
  (h:Flowing nodes scheduler records)(hscheduled:Scheduled nodes seen scheduler ready (some id))
  (hgraph:Workable nodes initial){source:String}(hdepends:DependsOn nodes id source):
  source∈startOrder records:=by
 obtain ⟨node,hnode,⟨d,hd,rfl⟩,howned⟩:=hdepends
 have hrunning:scheduler.states.lookup id=some .running:=(hscheduled.running id).mpr rfl
 obtain ⟨signals,inputs,hseen,hverdict⟩:=hscheduled.released id node hnode (by rw [hrunning];rfl)
 rw [h.members]
 rcases nodeReadiness_published hverdict with hpublished|⟨condition,hcondition,-⟩
 · exact h.supplied.completed d.source
    (hscheduled.monotone signals hseen d.source (hpublished d hd)) howned
 · rw [hgraph.unconditional id node hnode] at hcondition
   cases hcondition

lemma Flowing.execute{ready:List String}(h:Flowing nodes scheduler records)
  (hscheduled:Scheduled nodes seen scheduler ready (some id))(hgraph:Workable nodes initial)
  (hproduces:Produces nodes id (.value outputs))
  {started completed:JournalRecord}(hstarted:started.kind="node_started")
  (hid:started.nodeId=some id)(hcompleted:completed.kind="node_completed"):
  Flowing nodes (evaluateReadiness (completedState scheduler id outputs)).2
   (records++[started]++[completed]):=by
 have hrunning:scheduler.states.lookup id=some .running:=(hscheduled.running id).mpr rfl
 have horder:startOrder (records++[started]++[completed])=startOrder records++[id]:=by
  rw [startOrder_other _ (by rw [hcompleted];simp),startOrder_concat,if_pos hstarted,hid]
  rfl
 have hsupplied:=h.supplied.complete hproduces
 have hunblocked:Unblocked (completedState scheduler id outputs):=by
  intro j
  simp only [completedState,lookup_insert_eq]
  by_cases hj:j=id
  · simp [hj]
  · rw [if_neg hj]
    exact h.unblocked j
 have hfresh:id∉startOrder records:=by
  rw [h.members,hrunning]
  simp
 refine ⟨hunblocked.evaluate hsupplied hgraph hscheduled.nodes_eq,hsupplied.evaluate,?_,?_,?_⟩
 · rw [horder]
   refine h.nodup.append (nodup_singleton id) ?_
   intro j hj hj'
   rw [mem_singleton] at hj'
   exact hfresh (hj'▸hj)
 · intro j
   rw [horder,mem_append,mem_singleton,h.members,evaluateReadiness_completed]
   simp only [completedState,lookup_insert_eq]
   by_cases hj:j=id
   · simp [hj]
   · simp [hj]
 · rw [horder]
   exact h.topological.concat fun source hsource=>h.sources hscheduled hgraph hsource

lemma complete_flows{started:JournalRecord}(hjournal:OpenJournal s.journal)
  (hrecords:s.journal.records=records++[started])(hstarted:started.kind="node_started")
  (hid:started.nodeId=some id)(hscheduled:Scheduled nodes seen s.scheduler s.ready (some id))
  (hgraph:Workable nodes initial)(hflow:Flowing nodes s.scheduler records)
  (hproduces:Produces nodes id (.value outputs))
  (metadata:JournalMetadata)(payload:Option Value):
  FlowInv nodes (s.complete id outputs metadata payload):=by
 have hown:∀o∈outputs,o.1.node=id:=by
  obtain ⟨outputs',heq,hown,-⟩:=hproduces
  cases heq
  exact hown
 have hafter:=hflow.execute hscheduled hgraph hproduces hstarted hid
  (rfl:(extended s.journal "node_completed" metadata payload false).kind="node_completed")
 rw [←hrecords] at hafter
 unfold RunState.complete
 rw [completeNode_own ((hscheduled.running id).mpr rfl) hown]
 simp only
 rw [record_open (by exact hjournal)]
 exact ⟨fun _=>hafter,nofun,nofun⟩

lemma readToken_clock(environment:Environment)(s:RunState):
  (readToken environment s).2.virtualNowMs=s.virtualNowMs ∧
   (readToken environment s).2.attempts=s.attempts:=by
 unfold readToken
 cases environment.token with
 | none=>exact ⟨rfl,rfl⟩
 | some reason=>exact ⟨rfl,rfl⟩

lemma makeAttempt_flows(h:RunInv settings nodes seen s){node:StartedNode}{n:ℕ}
  (hcontrol:s.control=.attempt node n)(hgraph:Workable nodes initial)
  (htoken:∀token n,environment.token=some token→token n=none)
  (hreason:∀n,environment.attemptReason n=none)(htime:InTime settings environment s node.nodeId n)
  (hproduces:Produces nodes node.nodeId (executor.execute node n))
  (hflow:Flowing nodes s.scheduler s.journal.records):
  FlowInv nodes (makeAttempt settings environment executor s node n):=by
 obtain ⟨hjournal,hscheduled,-,-,-⟩:=h.attempt node n hcontrol
 obtain ⟨outputs,hvalue,-,-⟩:=id hproduces
 unfold makeAttempt
 rw [record_open hjournal]
 let t:RunState:={ s with journal:={ s.journal with records:=s.journal.records ++
  [extended s.journal "node_started" (attemptMetadata node.nodeId n)
   (startedPayload settings node.nodeId n) false] } }
 have hquiet:=readToken_quiet htoken t
 obtain ⟨hjournal',hscheduler,hready,-⟩:=readToken_frame environment t
 obtain ⟨hnow,hattempts⟩:=readToken_clock environment t
 generalize hread:readToken environment t=read
  at hquiet hjournal' hscheduler hready hnow hattempts
 obtain ⟨answer,u⟩:=read
 cases hquiet
 replace hnow:u.virtualNowMs=s.virtualNowMs:=hnow
 replace hattempts:u.attempts=s.attempts:=hattempts
 replace hscheduler:u.scheduler=s.scheduler:=hscheduler
 replace hready:u.ready=s.ready:=hready
 replace hjournal':u.journal=t.journal:=hjournal'
 -- the attempt ends in time with a value
 have hsettle:settleAttempt settings environment u node n none (executor.execute node n)=({ u with
       virtualNowMs:=saturatingAdd u.virtualNowMs
        (durationMs settings node.nodeId n (environment.measuredMs u.attempts))
       attempts:=u.attempts+1 }).complete node.nodeId outputs
    (attemptMetadata node.nodeId n) ((skippedReason outputs).map skippedPayload):=by
  unfold InTime at htime
  unfold settleAttempt
  simp only [hnow,hattempts,htime,hvalue,finishAttempt]
 simp only [hreason]
 rw [hsettle]
 rw [hvalue] at hproduces
 have hrecords:u.journal.records=s.journal.records ++
   [extended s.journal "node_started" (attemptMetadata node.nodeId n)
    (startedPayload settings node.nodeId n) false]:=by
  rw [hjournal']
 rw [←hscheduler] at hscheduled hflow
 rw [←hready] at hscheduled
 refine complete_flows (s:={ u with virtualNowMs:=_,attempts:=u.attempts+1 }) ?_ hrecords
  rfl rfl hscheduled hgraph hflow hproduces _ _
 rw [hjournal']
 exact hjournal.append _ _ _
end

section
variable {settings:Settings} {environment:Environment} {executor:OutcomeNodeExecutor}
 {scheduler:LocalScheduler} {runId:String}

lemma flowInv_start(h:Unrun scheduler)(hgoing:cancelledBefore environment=none)
  (hgraph:Workable scheduler.nodes scheduler.signals):
  FlowInv scheduler.nodes (stateAt settings environment executor scheduler (.new runId) 0):=by
 obtain ⟨reads,heq⟩:=startRun_going scheduler runId hgoing
 have hpending:∀id state,scheduler.states.lookup id=some state→state=.pending:=by
  intro id state hstate
  rw [h.pending] at hstate
  cases hnode:scheduler.nodes.lookup id with
  | none=>
   rw [hnode] at hstate
   cases hstate
  | some node=>
   rw [hnode] at hstate
   exact (some.inj hstate).symm
 have hsupplied:Supplied scheduler.nodes { scheduler with admitted:=true }:=by
  refine ⟨?_,?_⟩
  · intro port hport hnode
    rw [hgraph.foreign port hport] at hnode
    cases hnode
  · intro id node hnode d hd hsource
    rcases hsource with hnone|hcompleted
    · exact hgraph.supplied id node hnode d hd hnone
    · cases hpending _ _ hcompleted
 have hunblocked:Unblocked { scheduler with admitted:=true }:=by
  intro id
  refine ⟨?_,?_⟩
  · intro hstate
    cases hpending _ _ hstate
  · intro hstate
    cases hpending _ _ hstate
 have hzero:stateAt settings environment executor scheduler (.new runId) 0 =
   ⟨(admitRun scheduler).2,⟨runId,[startRecord runId],none⟩,0,(admitRun scheduler).1,
    .next,reads,0⟩:=heq
 rw [hzero]
 refine ⟨fun _=>⟨hunblocked.evaluate hsupplied hgraph rfl,hsupplied.evaluate,?_,?_,?_⟩,nofun,nofun⟩
 · exact nodup_nil
 · intro id
   refine ⟨nofun,?_⟩
   intro hcompleted
   cases hpending id _
    ((evaluateReadiness_completed { scheduler with admitted:=true } id).mp hcompleted)
 · intro earlier id later hsplit
   cases earlier <;>cases hsplit

lemma Untroubled.going{run:ℕ→RunState}{nodes:FMap String ScheduledNode}
  (h:Untroubled settings environment executor nodes run):cancelledBefore environment=none:=by
 unfold cancelledBefore
 cases htoken:environment.token with
 | none=>rfl
 | some token=>exact h.token token 0 htoken

lemma flowInv_stateAt(h:Unrun scheduler)(hgraph:Workable scheduler.nodes scheduler.signals)
  (huntroubled:Untroubled settings environment executor scheduler.nodes
   (stateAt settings environment executor scheduler (.new runId)))(n:ℕ):
  FlowInv scheduler.nodes (stateAt settings environment executor scheduler (.new runId) n):=by
 induction n with
 | zero=>exact flowInv_start h huntroubled.going hgraph
 | succ n ih=>
  have hrun:RunInv settings scheduler.nodes
    (seenAt (stateAt settings environment executor scheduler (.new runId)) n)
    (stateAt settings environment executor scheduler (.new runId) n):=
   runInv_stateAt h huntroubled.going n
  have hinTime:=huntroubled.inTime n
  have hproduces:=huntroubled.produces n
  rw [stateAt_succ]
  generalize stateAt settings environment executor scheduler (.new runId) n=s
   at ih hrun hinTime hproduces ⊢
  cases hcontrol:s.control with
  | next=>
   have heq:step settings environment executor s=nextNode environment executor s:=by
    simp only [step,hcontrol]
   rw [heq]
   exact nextNode_flows hrun hcontrol hgraph huntroubled.token huntroubled.preflight
    (ih.flowing (by simp [hcontrol]))
  | attempt node k=>
   have heq:step settings environment executor s =
     makeAttempt settings environment executor s node k:=by
    simp only [step,hcontrol]
   rw [heq]
   exact makeAttempt_flows hrun hcontrol hgraph huntroubled.token huntroubled.attemptReason
    (hinTime node k hcontrol) (hproduces node k hcontrol) (ih.flowing (by simp [hcontrol]))
  | finished result=>
   rw [step_finished hcontrol]
   exact ih
end

end GraphBlocks.TestRuntime
