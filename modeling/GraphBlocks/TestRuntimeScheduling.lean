import GraphBlocks.TestRuntimeModel

namespace GraphBlocks.TestRuntime
open FiniteMap Scheduler List Option

def evaluatedState (s:LocalScheduler) (id:String) : Option NodeExecutionState :=
 match s.nodes.lookup id, s.states.lookup id with
 | some node, some .pending=>some (verdictState (nodeReadiness s.signals node))
 | _, state=>state

def becomesReady (s:LocalScheduler) (id:String) : Bool :=
 s.states.lookup id==some .pending&&evaluatedState s id==some .ready

variable {id:String} {s:LocalScheduler}

lemma evaluatedState_pending{node:ScheduledNode}
  (hnode:s.nodes.lookup id=some node)(hpending:s.states.lookup id=some .pending):
  evaluatedState s id=some (verdictState (nodeReadiness s.signals node)):=by
 simp [evaluatedState,hnode,hpending]

lemma evaluatedState_other(h:s.nodes.lookup id=none∨s.states.lookup id≠some .pending):
  evaluatedState s id=s.states.lookup id:=by
 unfold evaluatedState
 cases hnode:s.nodes.lookup id with
 | none=>rfl
 | some node=>
  have hne:=h.resolve_left (by simp [hnode])
  split
  · next heq=>exact absurd heq hne
  · rfl

lemma evaluatedState_congr{t:LocalScheduler}(hnodes:t.nodes=s.nodes)
  (hsignals:t.signals=s.signals)(hstate:t.states.lookup id=s.states.lookup id):
  evaluatedState t id=evaluatedState s id:=by
 simp only [evaluatedState,hnodes,hsignals,hstate]

/-- What an evaluation leaves alone. -/
structure SameInstance (s t:LocalScheduler) : Prop where
 nodes:t.nodes=s.nodes
 signals:t.signals=s.signals
 admitted:t.admitted=s.admitted

lemma evaluateNode_effect(newly:List String)(s:LocalScheduler)(id:String):
  SameInstance s (evaluateNode (newly,s) id).2 ∧
  (∀j,(evaluateNode (newly,s) id).2.states.lookup j =
   if j=id then evaluatedState s id else s.states.lookup j) ∧
  (evaluateNode (newly,s) id).1=newly++(if becomesReady s id then [id] else []):=by
 -- a node that is not evaluated leaves everything as it is
 have hkeep:evaluateNode (newly,s) id=(newly,s)→becomesReady s id=false →
   evaluatedState s id=s.states.lookup id →
   SameInstance s (evaluateNode (newly,s) id).2 ∧
   (∀j,(evaluateNode (newly,s) id).2.states.lookup j =
    if j=id then evaluatedState s id else s.states.lookup j) ∧
   (evaluateNode (newly,s) id).1=newly++(if becomesReady s id then [id] else []):=by
  intro heq hnot hsame
  rw [heq]
  refine ⟨⟨rfl,rfl,rfl⟩,?_,by simp [hnot]⟩
  intro j
  by_cases hj:j=id
  · rw [if_pos hj,hsame,hj]
  · rw [if_neg hj]
 cases hnode:s.nodes.lookup id with
 | none=>
  have hsame:evaluatedState s id=s.states.lookup id:=evaluatedState_other (.inl hnode)
  refine hkeep (by simp [evaluateNode,hnode]) ?_ hsame
  simp only [becomesReady,hsame,Bool.and_eq_false_iff,beq_eq_false_iff_ne]
  by_cases hpending:s.states.lookup id=some .pending
  · right
    simp [hpending]
  · exact .inl hpending
 | some node=>
  by_cases hpending:s.states.lookup id=some .pending
  · have hstate:=evaluatedState_pending hnode hpending
    cases hverdict:nodeReadiness s.signals node with
    | ready resolved=>
     have heq:evaluateNode (newly,s) id=(newly++[id],{ s with
       readyInputs:=s.readyInputs.insert id resolved,states:=s.states.insert id .ready }):=by
      simp [evaluateNode,hnode,hpending,hverdict]
     rw [hverdict] at hstate
     rw [heq]
     refine ⟨⟨rfl,rfl,rfl⟩,?_,?_⟩
     · intro j
       simp only [lookup_insert_eq,hstate,verdictState]
     · simp [becomesReady,hpending,hstate,verdictState]
    | waiting missing=>
     rw [hverdict] at hstate
     refine hkeep (by simp [evaluateNode,hnode,hverdict]) ?_ ?_
     · simp [becomesReady,hstate,verdictState]
     · rw [hstate,hpending,verdictState]
    | blocked input source outcome=>
     have heq:evaluateNode (newly,s) id=(newly,{ s with states:=s.states.insert id .blocked }):=by
      simp [evaluateNode,hnode,hpending,hverdict]
     rw [hverdict] at hstate
     rw [heq]
     refine ⟨⟨rfl,rfl,rfl⟩,?_,?_⟩
     · intro j
       simp only [lookup_insert_eq,hstate,verdictState]
     · simp [becomesReady,hstate,verdictState]
  · refine hkeep (by simp [evaluateNode,hnode,hpending]) ?_ (evaluatedState_other (.inr hpending))
    simp [becomesReady,hpending]

lemma evaluateFold_effect(ids:List String)(hids:ids.Nodup)(newly:List String)(s:LocalScheduler):
  SameInstance s (ids.foldl evaluateNode (newly,s)).2 ∧
  (∀j,(ids.foldl evaluateNode (newly,s)).2.states.lookup j =
   if j∈ids then evaluatedState s j else s.states.lookup j) ∧
  (ids.foldl evaluateNode (newly,s)).1=newly++ids.filter (becomesReady s):=by
 induction ids generalizing newly s with
 | nil=>exact ⟨⟨rfl,rfl,rfl⟩,by simp,by simp⟩
 | cons id ids ih=>
  obtain ⟨hsame,hstates,hnewly⟩:=evaluateNode_effect newly s id
  obtain ⟨hnot,hrest⟩:=nodup_cons.mp hids
  obtain ⟨hsame',hstates',hnewly'⟩:=
   ih hrest (evaluateNode (newly,s) id).1 (evaluateNode (newly,s) id).2
  -- the rest of the walk does not look at the node that was just evaluated
  have hother:∀j∈ids,(evaluateNode (newly,s) id).2.states.lookup j=s.states.lookup j ∧
    evaluatedState (evaluateNode (newly,s) id).2 j=evaluatedState s j:=by
   intro j hj
   have hne:j≠id:=by
    rintro rfl
    exact hnot hj
   have hstate:(evaluateNode (newly,s) id).2.states.lookup j=s.states.lookup j:=by
    rw [hstates,if_neg hne]
   exact ⟨hstate,evaluatedState_congr hsame.nodes hsame.signals hstate⟩
  simp only [foldl_cons]
  refine ⟨⟨hsame'.nodes.trans hsame.nodes,hsame'.signals.trans hsame.signals,
   hsame'.admitted.trans hsame.admitted⟩,?_,?_⟩
  · intro j
    rw [hstates']
    by_cases hj:j∈ids
    · rw [if_pos hj,if_pos (mem_cons_of_mem _ hj),(hother j hj).2]
    · rw [if_neg hj,hstates]
      by_cases heq:j=id
      · rw [if_pos heq,heq,if_pos mem_cons_self]
      · rw [if_neg heq,if_neg (by simp [heq,hj])]
  · have hfilter:ids.filter (becomesReady (evaluateNode (newly,s) id).2) =
      ids.filter (becomesReady s):=by
     apply filter_congr
     intro j hj
     simp only [becomesReady,(hother j hj).1,(hother j hj).2]
    rw [hnewly',hnewly,hfilter,filter_cons]
    by_cases hready:becomesReady s id=true
    · simp [hready]
    · simp [hready]

lemma sortedKeys_nodup{α:Type}(m:FMap String α):(sortedKeys m).Nodup:=
 (perm_insertionSort _ m.keys).nodup_iff.mpr m.keys_nodup

lemma mem_sortedKeys{α:Type}{m:FMap String α}:id∈sortedKeys m↔(m.lookup id).isSome=true:=by
 unfold sortedKeys
 rw [mem_insertionSort,AList.lookup_isSome]
 exact AList.mem_keys.symm

lemma evaluateReadiness_effect(s:LocalScheduler):SameInstance s (evaluateReadiness s).2 ∧
  (∀j,(evaluateReadiness s).2.states.lookup j=evaluatedState s j) ∧
  (evaluateReadiness s).1=(sortedKeys s.nodes).filter (becomesReady s):=by
 obtain ⟨hsame,hstates,hnewly⟩:=evaluateFold_effect (sortedKeys s.nodes) (sortedKeys_nodup _) [] s
 refine ⟨hsame,?_,?_⟩
 · intro j
   refine (hstates j).trans ?_
   by_cases hj:j∈sortedKeys s.nodes
   · rw [if_pos hj]
   · rw [if_neg hj]
     have hnone:s.nodes.lookup j=none:=by
      rw [mem_sortedKeys,isSome_iff_ne_none,not_not] at hj
      exact hj
     exact (evaluatedState_other (.inl hnone)).symm
 · exact hnewly

def wasReady (state:Option NodeExecutionState) : Bool :=
 state==some .ready||state==some .running||state==some .completed

def isLive (state:Option NodeExecutionState) : Bool := state==some .pending||state==some .ready

/-- Every ready node is queued, at most one node runs, and pending nodes wait for a signal. -/
structure Scheduled (nodes:FMap String ScheduledNode) (seen:Signals→Prop)
  (s:LocalScheduler) (ready:List String) (current:Option String) : Prop where
 admitted:s.admitted=true
 nodes_eq:s.nodes=nodes
 known:∀id,(s.states.lookup id).isSome=(nodes.lookup id).isSome
 nodup:ready.Nodup
 queued:∀id,id∈ready↔s.states.lookup id=some .ready
 running:∀id,s.states.lookup id=some .running↔current=some id
 released:∀id node,nodes.lookup id=some node→wasReady (s.states.lookup id)=true →
  ∃signals inputs,seen signals∧nodeReadiness signals node=.ready inputs
 waiting:∀id node,nodes.lookup id=some node→s.states.lookup id=some .pending →
  (nodeReadiness s.signals node).isWaiting=true
 seen_now:seen s.signals
 monotone:∀signals,seen signals → ∀port,(signals.lookup port).isSome=true →
  (s.signals.lookup port).isSome=true

lemma verdictState_ready{r:Readiness}(h:verdictState r=.ready):∃inputs,r=.ready inputs:=by
 cases r with
 | ready inputs=>exact ⟨inputs,rfl⟩
 | waiting missing=>cases h
 | blocked input source outcome=>cases h

lemma verdictState_pending{r:Readiness}(h:verdictState r=.pending):r.isWaiting=true:=by
 cases r with
 | ready inputs=>cases h
 | waiting missing=>rfl
 | blocked input source outcome=>cases h

lemma verdictState_cases(r:Readiness):
  verdictState r=.ready∨verdictState r=.pending∨verdictState r=.blocked:=by
 cases r with
 | ready inputs=>exact .inl rfl
 | waiting missing=>exact .inr (.inl rfl)
 | blocked input source outcome=>exact .inr (.inr rfl)

/-- A scheduler in which nothing is running and all earlier verdicts are accounted for is in order
again once its readiness is evaluated on the signals that are now seen. -/
lemma Scheduled.evaluate{nodes:FMap String ScheduledNode}{seen:Signals→Prop}
  {ready:List String}(hadmitted:s.admitted=true)
  (hnodes:s.nodes=nodes)
  (hknown:∀id,(s.states.lookup id).isSome=(nodes.lookup id).isSome)
  (hnodup:ready.Nodup)(hqueued:∀id,id∈ready↔s.states.lookup id=some .ready)
  (hrunning:∀id,s.states.lookup id≠some .running)
  (hreleased:∀id node,nodes.lookup id=some node→wasReady (s.states.lookup id)=true →
   ∃signals inputs,seen signals∧nodeReadiness signals node=.ready inputs)
  (hseen:seen s.signals)
  (hmonotone:∀signals,seen signals→∀port,(signals.lookup port).isSome=true →
   (s.signals.lookup port).isSome=true):
  Scheduled nodes seen (evaluateReadiness s).2 (ready++(evaluateReadiness s).1) none:=by
 obtain ⟨hsame,hstates,hnewly⟩:=evaluateReadiness_effect s
 -- a node that is evaluated was pending, all others keep their state
 have hcases:∀id,(∃node,nodes.lookup id=some node∧s.states.lookup id=some .pending ∧
   evaluatedState s id=some (verdictState (nodeReadiness s.signals node))) ∨
   (s.states.lookup id≠some .pending∧evaluatedState s id=s.states.lookup id):=by
  intro id
  by_cases hpending:s.states.lookup id=some .pending
  · have hsome:(nodes.lookup id).isSome=true:=by
     rw [←hknown,hpending]
     rfl
    obtain ⟨node,hnode⟩:=isSome_iff_exists.mp hsome
    exact .inl ⟨node,hnode,hpending,evaluatedState_pending (by rw [hnodes];exact hnode)
     hpending⟩
  · exact .inr ⟨hpending,evaluatedState_other (.inr hpending)⟩
 have hmem:∀id,id∈(evaluateReadiness s).1 ↔
   s.states.lookup id=some .pending∧evaluatedState s id=some .ready:=by
  intro id
  rw [hnewly,mem_filter,mem_sortedKeys]
  constructor
  · rintro ⟨-,h⟩
    simpa [becomesReady] using h
  · rintro ⟨hpending,hready⟩
    refine ⟨?_,by simp [becomesReady,hpending,hready]⟩
    rw [hnodes,←hknown,hpending]
    rfl
 refine ⟨hsame.admitted.trans hadmitted,hsame.nodes.trans hnodes,?_,?_,?_,?_,?_,?_,?_,?_⟩
 · intro id
   rw [hstates,←hknown]
   rcases hcases id with ⟨node,-,hpending,hstate⟩|⟨-,hstate⟩
   · rw [hstate,hpending]
     rfl
   · rw [hstate]
 · rw [hnewly]
   refine hnodup.append ((sortedKeys_nodup _).filter _) ?_
   intro id hid hid'
   have hpending:=((hmem id).mp (by rw [hnewly];exact hid')).1
   rw [(hqueued id).mp hid] at hpending
   cases hpending
 · intro id
   rw [mem_append,hmem,hstates,hqueued]
   rcases hcases id with ⟨node,-,hpending,hstate⟩|⟨hpending,hstate⟩
   · rw [hpending]
     simp
   · rw [hstate]
     constructor
     · rintro (h|⟨h,-⟩)
       · exact h
       · exact absurd h hpending
     · exact .inl
 · intro id
   rw [hstates]
   simp only [reduceCtorEq,iff_false]
   rcases hcases id with ⟨node,-,hpending,hstate⟩|⟨-,hstate⟩
   · rw [hstate]
     rcases verdictState_cases (nodeReadiness s.signals node) with h|h|h <;>simp [h]
   · rw [hstate]
     exact hrunning id
 · intro id node hnode hready
   rw [hstates] at hready
   rcases hcases id with ⟨node',hnode',-,hstate⟩|⟨-,hstate⟩
   · rw [hnode] at hnode'
     cases hnode'
     have hverdict:verdictState (nodeReadiness s.signals node)=.ready:=by
      rw [hstate] at hready
      rcases verdictState_cases (nodeReadiness s.signals node) with h|h|h
      · exact h
      · rw [h] at hready
        cases hready
      · rw [h] at hready
        cases hready
     obtain ⟨inputs,hinputs⟩:=verdictState_ready hverdict
     exact ⟨s.signals,inputs,hseen,hinputs⟩
   · rw [hstate] at hready
     exact hreleased id node hnode hready
 · intro id node hnode hpending
   rw [hstates] at hpending
   rw [hsame.signals]
   rcases hcases id with ⟨node',hnode',-,hstate⟩|⟨hne,hstate⟩
   · rw [hnode] at hnode'
     cases hnode'
     rw [hstate] at hpending
     exact verdictState_pending (some.inj hpending)
   · rw [hstate] at hpending
     exact absurd hpending hne
 · rw [hsame.signals]
   exact hseen
 · rw [hsame.signals]
   exact hmonotone

section
variable {nodes:FMap String ScheduledNode} {seen:Signals→Prop} {s:LocalScheduler}
 {ready:List String}

lemma Scheduled.start(h:Scheduled nodes seen s (id::ready) none):
  ∃inputs,startNode s id=(.ok ⟨id,inputs⟩,{ s with
    states:=s.states.insert id .running,readyInputs:=s.readyInputs.erase id }) ∧
   Scheduled nodes seen { s with
    states:=s.states.insert id .running,readyInputs:=s.readyInputs.erase id }
    ready (some id):=by
 have hready:s.states.lookup id=some .ready:=(h.queued id).mp mem_cons_self
 obtain ⟨hnot,hnodup⟩:=nodup_cons.mp h.nodup
 refine ⟨(s.readyInputs.lookup id).getD ∅,by simp [startNode,hready,h.admitted],?_⟩
 have hother:∀j,j≠id→(s.states.insert id NodeExecutionState.running).lookup j=s.states.lookup j:=by
  intro j hj
  rw [lookup_insert_eq,if_neg hj]
 have hself:(s.states.insert id NodeExecutionState.running).lookup id=some .running:=by
  rw [lookup_insert_eq,if_pos rfl]
 refine ⟨h.admitted,h.nodes_eq,?_,hnodup,?_,?_,?_,?_,h.seen_now,h.monotone⟩
 · intro j
   by_cases hj:j=id
   · rw [hj,hself,←h.known,hready]
     rfl
   · rw [hother j hj]
     exact h.known j
 · intro j
   by_cases hj:j=id
   · rw [hj,hself]
     simp [hnot]
   · rw [hother j hj,←h.queued,mem_cons]
     simp [hj]
 · intro j
   by_cases hj:j=id
   · rw [hj,hself]
     simp
   · rw [hother j hj,h.running]
     simp [Ne.symm hj]
 · intro j node hnode hwas
   by_cases hj:j=id
   · subst hj
     exact h.released j node hnode (by rw [hready];rfl)
   · rw [hother j hj] at hwas
     exact h.released j node hnode hwas
 · intro j node hnode hpending
   by_cases hj:j=id
   · rw [hj,hself] at hpending
     cases hpending
   · rw [hother j hj] at hpending
     exact h.waiting j node hnode hpending

lemma lookup_publish_isSome(outputs:List (PortRef×Outcome))(signals:Signals)
  {port:PortRef}(h:(signals.lookup port).isSome=true):
  ((outputs.foldl (fun m o=>m.insert o.1 o.2) signals).lookup port).isSome=true:=by
 induction outputs generalizing signals with
 | nil=>exact h
 | cons o rest ih=>
  apply ih
  rw [lookup_insert_eq]
  split
  · rfl
  · exact h

def publishedSignals (s:LocalScheduler) (outputs:List (PortRef×Outcome)) : Signals :=
 outputs.foldl (fun m o=>m.insert o.1 o.2) s.signals

lemma Scheduled.complete(h:Scheduled nodes seen s ready (some id)){outputs:List (PortRef×Outcome)}
  (hown:∀o∈outputs,o.1.node=id){seen':Signals→Prop}(hmono:∀signals,seen signals→seen' signals)
  (honly:∀signals,seen' signals→seen signals∨signals=publishedSignals s outputs)
  (hnow:seen' (publishedSignals s outputs)):
  ∃newlyReady s',completeNode s id outputs=(.ok newlyReady,s') ∧
   Scheduled nodes seen' s' (ready++newlyReady) none ∧
   s'.signals=publishedSignals s outputs ∧
   (∀j,s'.states.lookup j=some .completed↔j=id∨s.states.lookup j=some .completed) ∧
   ∀j,isLive (s'.states.lookup j)=true→isLive (s.states.lookup j)=true:=by
 have hrunning:s.states.lookup id=some .running:=(h.running id).mpr rfl
 have hfind:outputs.find? (fun o=>o.1.node≠id)=none:=by
  rw [List.find?_eq_none]
  intro o ho
  simp [hown o ho]
 have hother:∀j,j≠id→(s.states.insert id NodeExecutionState.completed).lookup j =
   s.states.lookup j:=by
  intro j hj
  rw [lookup_insert_eq,if_neg hj]
 have hself:(s.states.insert id NodeExecutionState.completed).lookup id=some .completed:=by
  rw [lookup_insert_eq,if_pos rfl]
 let published:LocalScheduler:=
  { publishAll s outputs with states:=(publishAll s outputs).states.insert id .completed }
 have hsignals:published.signals=publishedSignals s outputs:=rfl
 have hstates:published.states=s.states.insert id .completed:=rfl
 have hevaluate:Scheduled nodes seen' (evaluateReadiness published).2
   (ready++(evaluateReadiness published).1) none:=by
  refine Scheduled.evaluate h.admitted h.nodes_eq ?_ h.nodup ?_ ?_ ?_ hnow ?_
  · intro j
    rw [hstates]
    by_cases hj:j=id
    · rw [hj,hself,←h.known,hrunning]
      rfl
    · rw [hother j hj]
      exact h.known j
  · intro j
    rw [hstates]
    by_cases hj:j=id
    · rw [hj,hself,h.queued,hrunning]
      simp
    · rw [hother j hj]
      exact h.queued j
  · intro j
    rw [hstates]
    by_cases hj:j=id
    · rw [hj,hself]
      simp
    · rw [hother j hj,Ne,h.running]
      simpa using Ne.symm hj
  · intro j node hnode hwas
    rw [hstates] at hwas
    by_cases hj:j=id
    · subst hj
      obtain ⟨signals,inputs,hseen,hready⟩:=h.released j node hnode (by rw [hrunning];rfl)
      exact ⟨signals,inputs,hmono signals hseen,hready⟩
    · rw [hother j hj] at hwas
      obtain ⟨signals,inputs,hseen,hready⟩:=h.released j node hnode hwas
      exact ⟨signals,inputs,hmono signals hseen,hready⟩
  · intro signals hseen port hport
    rw [hsignals]
    rcases honly signals hseen with hold|rfl
    · exact lookup_publish_isSome outputs s.signals (h.monotone signals hold port hport)
    · exact hport
 obtain ⟨hsame,hevaluated,-⟩:=evaluateReadiness_effect published
 have hcompleted:∀j,(evaluateReadiness published).2.states.lookup j=some .completed ↔
   j=id∨s.states.lookup j=some .completed:=by
  intro j
  rw [hevaluated]
  by_cases hj:j=id
  · have hcompleted:published.states.lookup j=some .completed:=by rw [hstates,hj,hself]
    rw [evaluatedState_other (.inr (by simp [hcompleted])),hcompleted]
    simp [hj]
  · have hstate:published.states.lookup j=s.states.lookup j:=by rw [hstates,hother j hj]
    by_cases hpending:s.states.lookup j=some .pending
    · have hsome:(nodes.lookup j).isSome=true:=by
       rw [←h.known,hpending]
       rfl
      obtain ⟨node,hnode⟩:=isSome_iff_exists.mp hsome
      have hnode':published.nodes.lookup j=some node:=by
       rw [←h.nodes_eq] at hnode
       exact hnode
      rw [evaluatedState_pending hnode' (by rw [hstate];exact hpending),hpending]
      rcases verdictState_cases (nodeReadiness published.signals node) with hv|hv|hv <;>
       simp [hv,hj]
    · rw [evaluatedState_other (.inr (by rw [hstate];exact hpending)),hstate]
      simp [hj]
 refine ⟨(evaluateReadiness published).1,(evaluateReadiness published).2,?_,hevaluate,
  hsame.signals.trans hsignals,hcompleted,?_⟩
 · simp only [completeNode,hrunning,hfind]
   rfl
 · intro j hlive
   rw [hevaluated] at hlive
   by_cases hj:j=id
   · have hcompleted:published.states.lookup j=some .completed:=by rw [hstates,hj,hself]
     rw [evaluatedState_other (.inr (by simp [hcompleted])),hcompleted] at hlive
     cases hlive
   · have hstate:published.states.lookup j=s.states.lookup j:=by rw [hstates,hother j hj]
     by_cases hpending:s.states.lookup j=some .pending
     · rw [hpending]
       rfl
     · rw [evaluatedState_other (.inr (by rw [hstate];exact hpending)),hstate] at hlive
       exact hlive

lemma Scheduled.admit(hnodes:s.nodes=nodes)
  (hfresh:∀id,s.states.lookup id=(nodes.lookup id).map fun _=>.pending):
  Scheduled nodes (· = s.signals) (admitRun s).2 (admitRun s).1 none:=by
 have hpending:∀id state,s.states.lookup id=some state→state=.pending:=by
  intro id state hstate
  rw [hfresh] at hstate
  cases hnode:nodes.lookup id with
  | none=>
   rw [hnode] at hstate
   cases hstate
  | some node=>
   rw [hnode] at hstate
   exact (some.inj hstate).symm
 have hevaluate:Scheduled nodes (·=s.signals) (evaluateReadiness { s with admitted:=true }).2
   ([]++(evaluateReadiness { s with admitted:=true }).1) none:=by
  refine Scheduled.evaluate rfl hnodes ?_ nodup_nil ?_ ?_ ?_ rfl ?_
  · intro id
    simp only [hfresh,isSome_map]
  · intro id
    constructor
    · intro h
      cases h
    · intro h
      cases hpending id _ h
  · intro id h
    cases hpending id _ h
  · intro id node hnode hwas
    have hstate:s.states.lookup id=some .pending:=by
     rw [hfresh,hnode]
     rfl
    simp only [hstate] at hwas
    cases hwas
  · intro signals hseen port hport
    rw [←hseen]
    exact hport
 exact hevaluate
end

end GraphBlocks.TestRuntime
