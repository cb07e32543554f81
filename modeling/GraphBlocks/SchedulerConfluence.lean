import GraphBlocks.SchedulerModel

namespace GraphBlocks.Scheduler
open FiniteMap MachineRuns List Option

def Extends (signals signals':Signals) : Prop :=
 ∀port outcome,signals.lookup port=some outcome→signals'.lookup port=some outcome

def Readiness.isBlocked : Readiness→Bool
 | .blocked _ _ _=>true
 | _=>false

def Readiness.isWaiting : Readiness→Bool
 | .waiting _=>true
 | _=>false

section
variable {signals signals':Signals}

lemma readinessLoop_ne_ready(deps:List InputDependency)(missing:List PortRef)
  (resolved r:Inputs)(h:missing≠[]):readinessLoop signals deps missing resolved ≠ .ready r:=by
 induction deps generalizing missing resolved with
 | nil=>
  have hne:missing.isEmpty=false:=by simpa using h
  simp [readinessLoop,hne]
 | cons d rest ih=>
  rw [readinessLoop]
  split
  · exact ih _ _ (by simp)
  · split
    · simp
    · exact ih _ _ h
  · split
    · simp
    · exact ih _ _ h

section
variable (hext:Extends signals signals')
include hext

lemma readinessLoop_ready(deps:List InputDependency)(missing:List PortRef)(resolved r:Inputs)
  (h:readinessLoop signals deps missing resolved=.ready r):
  readinessLoop signals' deps missing resolved=.ready r:=by
 induction deps generalizing missing resolved with
 | nil=>exact h
 | cons d rest ih=>
  rw [readinessLoop] at h ⊢
  cases hl:signals.lookup d.source with
  | none=>
   rw [hl] at h
   exact absurd h (readinessLoop_ne_ready rest _ resolved r (by simp))
  | some outcome=>
   rw [hl] at h
   rw [hext _ _ hl]
   cases outcome with
   | value v=>
    dsimp only at h ⊢
    cases hp:resolvePath v d.sourcePath with
    | none=>
     rw [hp] at h
     cases h
    | some nested=>
     rw [hp] at h
     exact ih _ _ h
   | _=>
    dsimp only at h ⊢
    cases hm:d.mode with
    | value=>
     rw [hm] at h
     cases h
    | outcome=>
     rw [hm] at h
     exact ih _ _ h

lemma readinessLoop_blocked(deps:List InputDependency)
  (missing missing':List PortRef)(resolved resolved':Inputs)
  (h:(readinessLoop signals deps missing resolved).isBlocked=true):
  (readinessLoop signals' deps missing' resolved').isBlocked=true:=by
 induction deps generalizing missing missing' resolved resolved' with
 | nil=>
  rw [readinessLoop] at h
  split at h <;>cases h
 | cons d rest ih=>
  rw [readinessLoop] at h ⊢
  cases hl:signals.lookup d.source with
  | none=>
   rw [hl] at h
   cases hl':signals'.lookup d.source with
   | none=>exact ih _ _ _ _ h
   | some outcome=>
    cases outcome with
    | value v=>
     dsimp only
     cases resolvePath v d.sourcePath with
     | none=>rfl
     | some nested=>exact ih _ _ _ _ h
    | _=>
     dsimp only
     cases d.mode with
     | value=>rfl
     | outcome=>exact ih _ _ _ _ h
  | some outcome=>
   rw [hl] at h
   rw [hext _ _ hl]
   cases outcome with
   | value v=>
    dsimp only at h ⊢
    cases hp:resolvePath v d.sourcePath with
    | none=>rfl
    | some nested=>
     rw [hp] at h
     exact ih _ _ _ _ h
   | _=>
    dsimp only at h ⊢
    cases hm:d.mode with
    | value=>rfl
    | outcome=>
     rw [hm] at h
     exact ih _ _ _ _ h

lemma nodeReadiness_ready(node:ScheduledNode)(r:Inputs)
  (h:nodeReadiness signals node=.ready r):nodeReadiness signals' node=.ready r:=by
 unfold nodeReadiness at h ⊢
 cases hc:node.condition with
 | none=>
  rw [hc] at h
  exact readinessLoop_ready hext _ _ _ _ h
 | some condition=>
  rw [hc] at h
  dsimp only at h ⊢
  cases hl:signals.lookup condition.source with
  | none=>
   rw [hl] at h
   cases h
  | some outcome=>
   rw [hl] at h
   rw [hext _ _ hl]
   cases outcome with
   | value v=>
    dsimp only at h ⊢
    split
    · next htrue=>
      rw [if_pos htrue] at h
      cases hd:readiness signals node.dependencies with
      | ready resolved=>
       have hd':readiness signals' node.dependencies=.ready resolved:=
        readinessLoop_ready hext _ _ _ _ hd
       rw [hd] at h
       rw [hd']
       exact h
      | waiting missing=>
       rw [hd] at h
       cases h
      | blocked input source outcome=>
       rw [hd] at h
       cases h
    · next hfalse=>
      rw [if_neg hfalse] at h
      exact h
   | _=>exact h

lemma nodeReadiness_blocked(node:ScheduledNode)(h:(nodeReadiness signals node).isBlocked=true):
  (nodeReadiness signals' node).isBlocked=true:=by
 unfold nodeReadiness at h ⊢
 cases hc:node.condition with
 | none=>
  rw [hc] at h
  exact readinessLoop_blocked hext _ _ _ _ _ h
 | some condition=>
  rw [hc] at h
  dsimp only at h ⊢
  cases hl:signals.lookup condition.source with
  | none=>
   rw [hl] at h
   cases h
  | some outcome=>
   rw [hl] at h
   rw [hext _ _ hl]
   cases outcome with
   | value v=>
    dsimp only at h ⊢
    split
    · next htrue=>
      rw [if_pos htrue] at h
      cases hd:readiness signals node.dependencies with
      | ready resolved=>
       rw [hd] at h
       cases h
      | waiting missing=>
       rw [hd] at h
       cases h
      | blocked input source outcome=>
       have hd':(readiness signals' node.dependencies).isBlocked=true:=
        readinessLoop_blocked hext _ _ [] _ ∅ (by
         change (readiness signals node.dependencies).isBlocked=true
         rw [hd]
         rfl)
       cases hd'':readiness signals' node.dependencies with
       | ready resolved=>rw [hd''] at hd';cases hd'
       | waiting missing=>rw [hd''] at hd';cases hd'
       | blocked input source outcome=>rfl
    · next hfalse=>
      rw [if_neg hfalse] at h
      cases h
   | _=>exact h

end
end

/-- The recorded state of a node agrees with the verdict of the signals seen so far. -/
def Grounded (s:LocalScheduler) (id:String) (node:ScheduledNode) : Prop :=
 match s.states.lookup id with
 | some .pending=>True
 | some .ready=>∃r,s.readyInputs.lookup id=some r∧nodeReadiness s.signals node=.ready r
 | some .running=>∃r,nodeReadiness s.signals node=.ready r
 | some .blocked=>(nodeReadiness s.signals node).isBlocked=true
 | _=>False

/-- As `Grounded`, and a node is only pending while a signal is missing. -/
def Settled (s:LocalScheduler) (id:String) (node:ScheduledNode) : Prop :=
 Grounded s id node∧(s.states.lookup id=some .pending→(nodeReadiness s.signals node).isWaiting=true)

/-- Evaluation neither starts a node nor adds or removes one. -/
structure Evaluates (s s':LocalScheduler) : Prop where
 nodes_eq:s'.nodes=s.nodes
 signals_eq:s'.signals=s.signals
 admitted_eq:s'.admitted=s.admitted
 none_iff:∀id,s'.states.lookup id=none↔s.states.lookup id=none
 running_iff:∀id,s'.states.lookup id=some .running↔s.states.lookup id=some .running

lemma Evaluates.refl(s:LocalScheduler):Evaluates s s:=
 ⟨rfl,rfl,rfl,fun _=>Iff.rfl,fun _=>Iff.rfl⟩

variable {s t:LocalScheduler} {nodes:FMap String ScheduledNode}

lemma Evaluates.trans{u:LocalScheduler}(h:Evaluates s t)(h':Evaluates t u):Evaluates s u:=
 ⟨h'.nodes_eq.trans h.nodes_eq,h'.signals_eq.trans h.signals_eq,
  h'.admitted_eq.trans h.admitted_eq,fun id=>(h'.none_iff id).trans (h.none_iff id),
  fun id=>(h'.running_iff id).trans (h.running_iff id)⟩

lemma evaluates_of_insert{id:String}{state:NodeExecutionState}
  (hp:s.states.lookup id=some .pending)(hr:state ≠ .running)(inputs:FMap String Inputs):
  Evaluates s { s with states:=s.states.insert id state,readyInputs:=inputs }:=by
 refine ⟨rfl,rfl,rfl,?_,?_⟩
 · intro j
   rw [lookup_insert_eq]
   by_cases hj:j=id
   · subst hj
     simp [hp]
   · simp [hj]
 · intro j
   rw [lookup_insert_eq]
   by_cases hj:j=id
   · subst hj
     simp [hp,hr]
   · simp [hj]

variable {node:ScheduledNode}

lemma grounded_congr{id:String}(hs:t.states.lookup id=s.states.lookup id)
  (hi:t.readyInputs.lookup id=s.readyInputs.lookup id)(hsig:t.signals=s.signals)
  (h:Grounded s id node):Grounded t id node:=by
 unfold Grounded at h ⊢
 rw [hs,hi,hsig]
 exact h

lemma settled_congr{id:String}(hs:t.states.lookup id=s.states.lookup id)
  (hi:t.readyInputs.lookup id=s.readyInputs.lookup id)(hsig:t.signals=s.signals)
  (h:Settled s id node):Settled t id node:=by
 refine ⟨grounded_congr hs hi hsig h.1,?_⟩
 rw [hs,hsig]
 exact h.2

lemma evaluateNode_spec(ready:List String)(s:LocalScheduler)(id:String):
  let s':=(evaluateNode (ready,s) id).2
  Evaluates s s'∧(∀j,j≠id→s'.states.lookup j=s.states.lookup j ∧
    s'.readyInputs.lookup j=s.readyInputs.lookup j) ∧
   ∀node,s.nodes.lookup id=some node→Grounded s id node→Settled s' id node:=by
 intro s'
 have hs':s'=(evaluateNode (ready,s) id).2:=rfl
 unfold evaluateNode at hs'
 cases hn:s.nodes.lookup id with
 | none=>
  simp only [hn] at hs'
  rw [hs']
  exact ⟨.refl s,fun j _=>⟨rfl,rfl⟩,fun node h=>by cases h⟩
 | some node=>
  simp only [hn] at hs'
  by_cases hp:s.states.lookup id=some .pending
  · simp only [hp,ne_eq,not_true_eq_false,↓reduceIte] at hs'
    cases hv:nodeReadiness s.signals node with
    | ready r=>
     simp only [hv] at hs'
     rw [hs']
     refine ⟨evaluates_of_insert hp (by simp) _,?_,?_⟩
     · intro j hj
       simp [hj]
     · rintro n hnode -
       cases hnode
       constructor
       · simp [Grounded,hv]
       · simp
    | waiting missing=>
     simp only [hv] at hs'
     rw [hs']
     refine ⟨.refl s,fun j _=>⟨rfl,rfl⟩,?_⟩
     rintro n hnode hg
     cases hnode
     exact ⟨hg,fun _=>by rw [hv];rfl⟩
    | blocked input source outcome=>
     simp only [hv] at hs'
     rw [hs']
     refine ⟨evaluates_of_insert hp (by simp) _,?_,?_⟩
     · intro j hj
       simp [hj]
     · rintro n hnode -
       cases hnode
       constructor
       · simp [Grounded,hv,Readiness.isBlocked]
       · simp
  · simp only [ne_eq,hp,not_false_eq_true,↓reduceIte] at hs'
    rw [hs']
    refine ⟨.refl s,fun j _=>⟨rfl,rfl⟩,?_⟩
    intro n _ hg
    exact ⟨hg,fun h=>absurd h hp⟩

lemma evaluateFold_spec(ids:List String)(ready:List String)(s:LocalScheduler)
  (h:∀id node,s.nodes.lookup id=some node→Grounded s id node):
  let s':=(ids.foldl evaluateNode (ready,s)).2
  Evaluates s s' ∧ ∀id node,s.nodes.lookup id=some node→Grounded s' id node ∧
   (id∈ids∨Settled s id node→Settled s' id node):=by
 induction ids generalizing ready s with
 | nil=>
  refine ⟨.refl s,?_⟩
  intro id node hn
  refine ⟨h id node hn,?_⟩
  rintro (hm|hs)
  · simp at hm
  · exact hs
 | cons id ids ih=>
  obtain ⟨he,hother,hself⟩:=evaluateNode_spec ready s id
  have hground:∀j node,s.nodes.lookup j=some node→Grounded (evaluateNode (ready,s) id).2 j node:=by
   intro j node hn
   by_cases hj:j=id
   · subst hj
     exact (hself node hn (h j node hn)).1
   · exact grounded_congr (hother j hj).1 (hother j hj).2 he.signals_eq (h j node hn)
  have hrest:=ih (evaluateNode (ready,s) id).1 (evaluateNode (ready,s) id).2 (by
   rw [he.nodes_eq]
   exact hground)
  obtain ⟨he',hall⟩:=hrest
  refine ⟨he.trans he',?_⟩
  intro j node hn
  obtain ⟨hg,hset⟩:=hall j node (by rw [he.nodes_eq];exact hn)
  refine ⟨hg,?_⟩
  intro hcase
  apply hset
  by_cases hj:j=id
  · subst hj
    exact Or.inr (hself node hn (h j node hn))
  · rcases hcase with hm|hs
    · exact Or.inl ((mem_cons.mp hm).resolve_left hj)
    · exact Or.inr (settled_congr (hother j hj).1 (hother j hj).2 he.signals_eq hs)

lemma evaluateReadiness_spec(s:LocalScheduler)
  (h:∀id node,s.nodes.lookup id=some node→Grounded s id node):
  Evaluates s (evaluateReadiness s).2 ∧
   ∀id node,s.nodes.lookup id=some node→Settled (evaluateReadiness s).2 id node:=by
 obtain ⟨he,hall⟩:=evaluateFold_spec (sortedKeys s.nodes) [] s h
 refine ⟨he,?_⟩
 intro id node hn
 apply (hall id node hn).2
 left
 unfold sortedKeys
 rw [mem_insertionSort]
 exact AList.mem_keys.mpr (AList.lookup_isSome.mp (by rw [hn];rfl))

lemma Grounded.extend{id:String}(h:Grounded s id node)(hs:t.states=s.states)
  (hi:t.readyInputs=s.readyInputs)(hext:Extends s.signals t.signals):Grounded t id node:=by
 unfold Grounded at h ⊢
 rw [hs,hi]
 cases hl:s.states.lookup id with
 | none=>rw [hl] at h;exact h
 | some state=>
  rw [hl] at h
  cases state with
  | pending=>trivial
  | ready=>
   obtain ⟨r,hr,hv⟩:=h
   exact ⟨r,hr,nodeReadiness_ready hext node r hv⟩
  | running=>
   obtain ⟨r,hv⟩:=h
   exact ⟨r,nodeReadiness_ready hext node r hv⟩
  | blocked=>exact nodeReadiness_blocked hext node h
  | completed=>exact h
  | cancelled=>exact h

inductive Call where
 | publishSignal (port:PortRef) (outcome:Outcome)
 | startNode (nodeId:String)

inductive Response where
 | newlyReady (ids:List String)
 | started (r:Except SchedulerError StartedNode)

def step (s:LocalScheduler) : Call→Response×LocalScheduler
 | .publishSignal port outcome=>(publishSignal s port outcome).map .newlyReady id
 | .startNode nodeId=>(startNode s nodeId).map .started id

abbrev Past := List (Transition LocalScheduler Call Response)

def Call.published : Call→Option (PortRef×Outcome)
 | .publishSignal port outcome=>some (port,outcome)
 | .startNode _=>none

/-- The signals of a run, in the order of their delivery. -/
def published (calls:List Call) : List (PortRef×Outcome) := calls.filterMap Call.published

def Response.startedNode : Response→Option StartedNode
 | .started (.ok node)=>some node
 | _=>none

def startLog (past:Past) : List StartedNode := past.filterMap fun tr=>tr.response.startedNode

/-- What a run has established about the state it leads to. -/
structure Running (nodes:FMap String ScheduledNode) (past:Past) (s:LocalScheduler) : Prop where
 admitted:s.admitted=true
 nodes_eq:s.nodes=nodes
 known:∀id,s.states.lookup id=none↔nodes.lookup id=none
 settled:∀id node,nodes.lookup id=some node→Settled s id node
 signals_iff:∀port outcome,s.signals.lookup port=some outcome ↔
  (port,outcome)∈published (past.map Transition.call)
 started:∀n∈startLog past,s.states.lookup n.nodeId=some .running ∧
  ∃node,nodes.lookup n.nodeId=some node∧nodeReadiness s.signals node=.ready n.inputs
 running:∀id,s.states.lookup id=some .running → ∃n∈startLog past,n.nodeId=id

lemma published_concat(past:Past)(s:LocalScheduler)(c:Call):
  published ((past++[takeStep step s c]).map Transition.call) =
   published (past.map Transition.call)++c.published.toList:=by
 rw [map_append]
 exact filterMap_concat _ _ _

lemma startLog_concat(past:Past)(s:LocalScheduler)(c:Call):
  startLog (past++[takeStep step s c])=startLog past++(step s c).1.startedNode.toList:=
 filterMap_concat _ _ _

lemma Running.publish{past:Past}(h:Running nodes past s)(port:PortRef)(outcome:Outcome)
  (hfresh:∀o,(port,o)∉published (past.map Transition.call)):
  Running nodes (past++[takeStep step s (.publishSignal port outcome)])
   (step s (.publishSignal port outcome)).2:=by
 have hext:Extends s.signals (s.signals.insert port outcome):=by
  intro q o hq
  rw [lookup_insert_eq]
  split
  · next he=>
    subst he
    exact absurd ((h.signals_iff q o).mp hq) (hfresh o)
  · exact hq
 have hground:∀id node,s.nodes.lookup id=some node →
   Grounded { s with signals:=s.signals.insert port outcome } id node:=by
  intro id node hn
  rw [h.nodes_eq] at hn
  exact (h.settled id node hn).1.extend rfl rfl hext
 obtain ⟨he,hset⟩:=evaluateReadiness_spec { s with signals:=s.signals.insert port outcome }
  hground
 have hstep:(step s (.publishSignal port outcome)).2 =
   (evaluateReadiness { s with signals:=s.signals.insert port outcome }).2:=by
  simp [step,publishSignal,h.admitted]
 have hresp:(step s (.publishSignal port outcome)).1.startedNode=none:=rfl
 rw [hstep]
 refine ⟨he.admitted_eq.trans h.admitted,he.nodes_eq.trans h.nodes_eq,?_,?_,?_,?_,?_⟩
 · intro id
   exact (he.none_iff id).trans (h.known id)
 · intro id node hn
   exact hset id node (by rw [←h.nodes_eq] at hn;exact hn)
 · intro q o
   rw [he.signals_eq,published_concat,mem_append,←h.signals_iff]
   change (s.signals.insert port outcome).lookup q=some o ↔ _∨(q,o)∈[(port,outcome)]
   rw [lookup_insert_eq,mem_singleton,Prod.mk.injEq]
   split
   · next hq=>
     subst hq
     have hnone:s.signals.lookup q≠some o:=fun hl=>hfresh o ((h.signals_iff q o).mp hl)
     simp [hnone,eq_comm]
   · next hq=>simp [hq]
 · intro n hn
   rw [startLog_concat,hresp,toList_none,append_nil] at hn
   obtain ⟨hrun,node,hnode,hv⟩:=h.started n hn
   refine ⟨(he.running_iff _).mpr hrun,node,hnode,?_⟩
   rw [he.signals_eq]
   exact nodeReadiness_ready hext node _ hv
 · intro id hrun
   rw [startLog_concat,hresp,toList_none,append_nil]
   exact h.running id ((he.running_iff id).mp hrun)

lemma Running.refuse{past:Past}
  (h:Running nodes past s)(id:String)(e:SchedulerError)(hstep:startNode s id=(.error e,s)):
  Running nodes (past++[takeStep step s (.startNode id)]) (step s (.startNode id)).2:=by
 have hresp:(step s (.startNode id)).1.startedNode=none:=by simp [step,hstep,Response.startedNode]
 have hstate:(step s (.startNode id)).2=s:=by simp [step,hstep]
 rw [hstate]
 refine ⟨h.admitted,h.nodes_eq,h.known,h.settled,?_,?_,?_⟩
 · intro port outcome
   rw [published_concat]
   simpa [Call.published] using h.signals_iff port outcome
 · rw [startLog_concat,hresp,toList_none,append_nil]
   exact h.started
 · rw [startLog_concat,hresp,toList_none,append_nil]
   exact h.running

lemma Running.start{past:Past}(h:Running nodes past s)(id:String):
  Running nodes (past++[takeStep step s (.startNode id)]) (step s (.startNode id)).2:=by
 cases hst:s.states.lookup id with
 | none=>exact h.refuse id (.unknownNode id) (by simp only [startNode,hst])
 | some state=>
  by_cases hready:state=.ready
  · subst hready
    -- the inputs handed over are those of the verdict, which later signals keep
    obtain ⟨node,hnode⟩:∃node,nodes.lookup id=some node:=by
     refine ne_none_iff_exists'.mp ?_
     rw [ne_eq,←h.known id,hst]
     simp
    obtain ⟨r,hr,hv⟩:∃r,s.readyInputs.lookup id=some r∧nodeReadiness s.signals node=.ready r:=by
     have hg:=(h.settled id node hnode).1
     unfold Grounded at hg
     rw [hst] at hg
     exact hg
    have hstart:startNode s id=(.ok ⟨id,r⟩,{ s with
      states:=s.states.insert id .running,readyInputs:=s.readyInputs.erase id }):=by
     simp [startNode,hst,h.admitted,hr]
    have hresp:(step s (.startNode id)).1.startedNode=some ⟨id,r⟩:=by
     simp [step,hstart,Response.startedNode]
    have hstate:(step s (.startNode id)).2={ s with
      states:=s.states.insert id .running,readyInputs:=s.readyInputs.erase id }:=by
     simp [step,hstart]
    rw [hstate]
    refine ⟨h.admitted,h.nodes_eq,?_,?_,?_,?_,?_⟩
    · intro j
      rw [lookup_insert_eq]
      split
      · next hj=>
        subst hj
        simp [hnode]
      · exact h.known j
    · intro j n hn
      by_cases hj:j=id
      · subst hj
        rw [hnode] at hn
        cases hn
        exact ⟨by simp [Grounded,hv],by simp⟩
      · refine settled_congr (s:=s) ?_ ?_ rfl (h.settled j n hn)
        · simp [hj]
        · rw [lookup_erase_eq,if_neg hj]
    · intro port outcome
      rw [published_concat]
      simpa [Call.published] using h.signals_iff port outcome
    · intro n hn
      rw [startLog_concat,hresp] at hn
      rcases mem_append.mp hn with hn|hn
      · obtain ⟨hrun,rest⟩:=h.started n hn
        refine ⟨?_,rest⟩
        rw [lookup_insert_eq]
        split
        · rfl
        · exact hrun
      · have he:n=⟨id,r⟩:=by simpa using hn
        subst he
        exact ⟨by simp,node,hnode,hv⟩
    · intro j hj
      rw [startLog_concat,hresp]
      rw [lookup_insert_eq] at hj
      split at hj
      · next he=>exact ⟨⟨id,r⟩,by simp,he.symm⟩
      · obtain ⟨n,hn,he⟩:=h.running j hj
        exact ⟨n,by simp [hn],he⟩
  · exact h.refuse id (.nodeNotReady id state) (by simp only [startNode,hst,h.admitted,
     Bool.not_true,Bool.false_eq_true,↓reduceIte,ne_eq,hready,not_false_eq_true])

/-- A scheduler before admission: every node is pending and nothing is published. -/
structure Fresh (s:LocalScheduler) : Prop where
 signals_eq:s.signals = ∅
 states_eq:∀id,s.states.lookup id=(s.nodes.lookup id).map fun _=>.pending

lemma insertNodes_fresh(nodes:List ScheduledNode)(s t:LocalScheduler)(h:Fresh s)
  (hi:insertNodes nodes s=.ok t):Fresh t:=by
 induction nodes generalizing s with
 | nil=>
  cases hi
  exact h
 | cons node rest ih=>
  rw [insertNodes] at hi
  split at hi
  · cases hi
  · refine ih _ ?_ hi
    refine ⟨h.signals_eq,?_⟩
    intro id
    simp only [lookup_insert_eq]
    by_cases hj:id=node.nodeId
    · simp [hj]
    · simp only [hj,↓reduceIte]
      exact h.states_eq id

lemma new_fresh{nodes:List ScheduledNode}(h:new nodes=.ok s):Fresh s:=
 insertNodes_fresh nodes _ s ⟨rfl,fun id=>by simp⟩ h

lemma Fresh.running(h:Fresh s):Running s.nodes [] (admitRun s).2:=by
 have hpending:∀id node,s.nodes.lookup id=some node→s.states.lookup id=some .pending:=by
  intro id node hn
  rw [h.states_eq,hn]
  rfl
 obtain ⟨he,hset⟩:=evaluateReadiness_spec { s with admitted:=true } (by
  intro id node hn
  simp [Grounded,hpending id node hn])
 refine ⟨he.admitted_eq,he.nodes_eq,?_,hset,?_,by simp [startLog],?_⟩
 · intro id
   refine (he.none_iff id).trans ?_
   rw [h.states_eq,map_eq_none_iff]
 · intro port outcome
   unfold admitRun
   rw [he.signals_eq]
   simp [h.signals_eq,published]
 · intro id hrun
   have hold:s.states.lookup id=some .running:=(he.running_iff id).mp hrun
   rw [h.states_eq] at hold
   cases hn:s.nodes.lookup id <;>rw [hn] at hold <;>cases hold

lemma running_history{nodes:List ScheduledNode}{s₀:LocalScheduler}{calls:List Call}
  (hnew:new nodes=.ok s₀)(honce:((published calls).map Prod.fst).Nodup):
  Running s₀.nodes (history step (admitRun s₀).2 calls)
   (execute step (admitRun s₀).2 calls):=by
 refine history_invariant_of step (P:=Running s₀.nodes) (G:=fun past c=>
  ∀port outcome,c.published=some (port,outcome) →
   ∀o,(port,o)∉published (past.map Transition.call)) (new_fresh hnew).running ?_ calls ?_
 · intro past s c hguard h
   cases c with
   | publishSignal port outcome=>exact h.publish port outcome (hguard port outcome rfl)
   | startNode id=>exact h.start id
 · intro before c after hcalls port outcome hc o hmem
   rw [history_calls] at hmem
   rw [hcalls] at honce
   unfold published at honce
   rw [filterMap_append,filterMap_cons,hc,map_append,nodup_append] at honce
   exact honce.2.2 port (List.mem_map.mpr ⟨(port,o),hmem,rfl⟩) port (by simp) rfl

section
variable {nodes:FMap String ScheduledNode} {past past':Past} {s s':LocalScheduler}

lemma signals_extend(h:Running nodes past s)(h':Running nodes past' s')
  (hsame:∀x,x∈published (past.map Transition.call) →
   x∈published (past'.map Transition.call)):Extends s.signals s'.signals:=by
 intro port outcome hl
 exact (h'.signals_iff port outcome).mpr (hsame _ ((h.signals_iff port outcome).mp hl))

def verdictState : Readiness→NodeExecutionState
 | .ready _=>.ready
 | .waiting _=>.pending
 | .blocked _ _ _=>.blocked

lemma verdictState_congr{signals signals':Signals}(hext:Extends signals signals')
  (hext':Extends signals' signals)(node:ScheduledNode):
  verdictState (nodeReadiness signals node)=verdictState (nodeReadiness signals' node):=by
 cases hv:nodeReadiness signals node with
 | ready r=>rw [nodeReadiness_ready hext node r hv]
 | blocked input source outcome=>
  have hb:=nodeReadiness_blocked hext node (by rw [hv];rfl)
  cases hv':nodeReadiness signals' node with
  | blocked _ _ _=>rfl
  | ready _=>rw [hv'] at hb;cases hb
  | waiting _=>rw [hv'] at hb;cases hb
 | waiting missing=>
  cases hv':nodeReadiness signals' node with
  | waiting _=>rfl
  | ready r=>
   have hr:=nodeReadiness_ready hext' node r hv'
   rw [hv] at hr
   cases hr
  | blocked _ _ _=>
   have hb:=nodeReadiness_blocked hext' node (by rw [hv'];rfl)
   rw [hv] at hb
   cases hb

lemma Running.state_eq{id:String}(h:Running nodes past s)
  (hn:nodes.lookup id=some node)(hstart:∀n∈startLog past,n.nodeId≠id):
  s.states.lookup id=some (verdictState (nodeReadiness s.signals node)):=by
 obtain ⟨hg,hw⟩:=h.settled id node hn
 unfold Grounded at hg
 cases hst:s.states.lookup id with
 | none=>
  rw [hst] at hg
  exact hg.elim
 | some state=>
  rw [hst] at hg
  cases state with
  | pending=>
   have hwait:=hw hst
   cases hv:nodeReadiness s.signals node with
   | waiting _=>rfl
   | ready _=>rw [hv] at hwait;cases hwait
   | blocked _ _ _=>rw [hv] at hwait;cases hwait
  | ready=>
   obtain ⟨r,-,hv⟩:=hg
   rw [hv]
   rfl
  | running=>
   obtain ⟨n,hmem,he⟩:=h.running id hst
   exact absurd he (hstart n hmem)
  | blocked=>
   cases hv:nodeReadiness s.signals node with
   | blocked _ _ _=>rfl
   | ready _=>rw [hv] at hg;cases hg
   | waiting _=>rw [hv] at hg;cases hg
  | completed=>exact hg.elim
  | cancelled=>exact hg.elim
end

theorem scheduler_confluent (nodes : List ScheduledNode) (s₀ : LocalScheduler)
  (calls calls' : List Call)
  (hnew : new nodes=.ok s₀) (honce : ((published calls).map Prod.fst).Nodup)
  (hperm : (published calls').Perm (published calls)) :
  let past := history step (admitRun s₀).2 calls
  let past':=history step (admitRun s₀).2 calls'
  let s:=execute step (admitRun s₀).2 calls
  let s':=execute step (admitRun s₀).2 calls'
  (∀id,(∀n∈startLog past,n.nodeId≠id)→(∀n∈startLog past',n.nodeId≠id) →
   s.states.lookup id=s'.states.lookup id ∧
   ∀state,s.states.lookup id=some state→state=.pending∨state=.ready∨state=.blocked) ∧
  (∀n∈startLog past,∀n'∈startLog past',n.nodeId=n'.nodeId→n.inputs=n'.inputs) ∧
  (∀n∈startLog past,(∀n'∈startLog past',n'.nodeId≠n.nodeId)→s'.states.lookup n.nodeId=some .ready ∧
   s'.readyInputs.lookup n.nodeId=some n.inputs):=by
 intro past past' s s'
 have h:=running_history hnew honce
 have h':=running_history hnew ((hperm.map Prod.fst).nodup_iff.mpr honce)
 have hcalls:past.map Transition.call=calls:=history_calls step _ calls
 have hcalls':past'.map Transition.call=calls':=history_calls step _ calls'
 have hext:Extends s.signals s'.signals:=by
  refine signals_extend h h' ?_
  intro x hx
  rw [hcalls] at hx
  rw [hcalls']
  exact hperm.mem_iff.mpr hx
 have hext':Extends s'.signals s.signals:=by
  refine signals_extend h' h ?_
  intro x hx
  rw [hcalls'] at hx
  rw [hcalls]
  exact hperm.mem_iff.mp hx
 refine ⟨?_,?_,?_⟩
 · intro id hs hs'
   cases hn:s₀.nodes.lookup id with
   | none=>
    have hnone:=(h.known id).mpr hn
    have hnone':=(h'.known id).mpr hn
    refine ⟨hnone.trans hnone'.symm,?_⟩
    intro state hstate
    rw [hnone] at hstate
    cases hstate
   | some node=>
    rw [h.state_eq hn hs,h'.state_eq hn hs',verdictState_congr hext hext' node]
    refine ⟨rfl,?_⟩
    rintro state hstate
    cases hstate
    cases nodeReadiness s'.signals node <;>simp [verdictState]
 · intro n hn n' hn' he
   obtain ⟨-,node,hnode,hv⟩:=h.started n hn
   obtain ⟨-,node',hnode',hv'⟩:=h'.started n' hn'
   rw [←he,hnode] at hnode'
   cases hnode'
   have hsame:=nodeReadiness_ready hext node _ hv
   rw [hv'] at hsame
   injection hsame with hsame
   exact hsame.symm
 · intro n hn hs'
   obtain ⟨-,node,hnode,hv⟩:=h.started n hn
   have hv':=nodeReadiness_ready hext node _ hv
   have hstate:=h'.state_eq hnode hs'
   rw [hv'] at hstate
   refine ⟨hstate,?_⟩
   have hg:=(h'.settled n.nodeId node hnode).1
   unfold Grounded at hg
   rw [hstate] at hg
   obtain ⟨r,hr,hvr⟩:=hg
   rw [hv'] at hvr
   injection hvr with hvr
   rw [hvr]
   exact hr

def joinNode : ScheduledNode :=
 ⟨"join",[⟨"left",⟨"a","out"⟩,[],.value⟩,⟨"right",⟨"b","out"⟩,[],.outcome⟩],none⟩

def joinScheduler : LocalScheduler :=
 { admitted:=false
   nodes:=AList.insert "join" joinNode ∅
   states:=AList.insert "join" .pending ∅
   readyInputs:=∅
   signals:=∅ }

def leftFirst : List Call :=
 [.publishSignal ⟨"a","out"⟩ (.value .null),.publishSignal ⟨"b","out"⟩ .absent,.startNode "join"]

def rightFirst : List Call :=
 [.publishSignal ⟨"b","out"⟩ .absent,.publishSignal ⟨"a","out"⟩ (.value .null),.startNode "join"]

theorem joinNode_order_independent :
  ((startLog (history step (admitRun joinScheduler).2 leftFirst)).map StartedNode.nodeId=["join"] ∧
   (startLog (history step (admitRun joinScheduler).2 rightFirst)).map StartedNode.nodeId =
    ["join"]) ∧
  ∀n∈startLog (history step (admitRun joinScheduler).2 leftFirst),
   ∀n'∈startLog (history step (admitRun joinScheduler).2 rightFirst),
    n.nodeId=n'.nodeId→n.inputs=n'.inputs :=
 ⟨⟨by decide +kernel,by decide +kernel⟩,
  (scheduler_confluent [joinNode] joinScheduler leftFirst rightFirst rfl (by decide +kernel)
   (List.Perm.swap _ _ _)).2.1⟩

end GraphBlocks.Scheduler
