import GraphBlocks.MachineRuns
import GraphBlocks.OrderedMap
import GraphBlocks.RustStd

/-! `TaskGroupState` of the runtime core: how the results of its children decide a group. -/
namespace GraphBlocks.TaskGroups
open Std MachineRuns OrderedMap RustStd List Std.ExtTreeMap

inductive TaskGroupFailurePolicy where
 | collect | failFast

inductive SiblingCancellationPolicy where
 | keepRunning | cancelSiblingsOnFatal
deriving DecidableEq

structure TaskGroupPolicy where
 minimumSuccesses:ℕ
 failure:TaskGroupFailurePolicy
 cancellation:SiblingCancellationPolicy

section
variable {ε ρ:Type}

/-- The state of a child, over the errors `ε` and the reasons `ρ` that its results carry. -/
inductive ChildTaskState (ε ρ:Type) where
 | pending
 | running
 | succeeded
 | failed (error:ε)
 | cancelled (reason:ρ)

def ChildTaskState.isTerminal : ChildTaskState ε ρ→Bool
 | .succeeded | .failed _ | .cancelled _=>true
 | .pending | .running=>false

def ChildTaskState.isSuccess : ChildTaskState ε ρ→Bool
 | .succeeded=>true
 | _=>false

inductive TaskGroupFailure (ε:Type) where
 | childFailed (childId:String) (error:ε)
 | insufficientSuccesses (successes required:ℕ)

inductive TaskGroupDecision (ε:Type) where
 | pending
 | succeeded (successes failures:ℕ)
 | failed (failure:TaskGroupFailure ε) (cancelSiblings:List String)

inductive TaskGroupError where
 | invalidMinimumSuccesses (minimumSuccesses childCount:ℕ)
 | duplicateChild (childId:String)
 | unknownChild (childId:String)
 | childAlreadyTerminal (childId:String)
 | alreadyTerminal

abbrev Children (ε ρ:Type) := ExtTreeMap String (ChildTaskState ε ρ) compare

structure TaskGroupState (ε ρ:Type) where
 policy:TaskGroupPolicy
 children:Children ε ρ
 terminal:Bool

def addChildren : List String→Children ε ρ→Except TaskGroupError (Children ε ρ)
 | [],states=>.ok states
 | childId::children,states=>
  if states.contains childId then .error (.duplicateChild childId)
  else addChildren children (states.insert childId .pending)

def TaskGroupState.new (children:List String) (policy:TaskGroupPolicy) :
  Except TaskGroupError (TaskGroupState ε ρ) := do
 let states ← addChildren children ∅
 ensure (policy.minimumSuccesses != 0&&policy.minimumSuccesses≤ states.size)
  (.invalidMinimumSuccesses policy.minimumSuccesses states.size)
 return { policy,children:=states,terminal:=false }

/-- How many children are in such a state. -/
def countStates (p:ChildTaskState ε ρ→Bool) (children:Children ε ρ) : ℕ :=
 sumOf (fun _ state=>if p state then 1 else 0) children

namespace TaskGroupState

def cancelSiblings (s:TaskGroupState ε ρ) : List String :=
 if s.policy.cancellation=.keepRunning then []
 else (s.children.toList.filter fun entry=>!entry.2.isTerminal).map Prod.fst

def setChildState (s:TaskGroupState ε ρ) (childId:String) (state:ChildTaskState ε ρ) :
  Except TaskGroupError (TaskGroupState ε ρ) :=
 if s.terminal then .error .alreadyTerminal
 else match s.children[childId]? with
 | none=>.error (.unknownChild childId)
 | some current=>
  if current.isTerminal then .error (.childAlreadyTerminal childId)
  else .ok { s with children:=s.children.insert childId state }

def evaluateProgress (s:TaskGroupState ε ρ) : TaskGroupDecision ε × TaskGroupState ε ρ :=
 let successes:=countStates ChildTaskState.isSuccess s.children
 let unfinished:=countStates (fun state=>!state.isTerminal) s.children
 let failures:=countStates (fun state=>state.isTerminal && !state.isSuccess) s.children
 if s.policy.minimumSuccesses≤ successes then
  (.succeeded successes failures,{ s with terminal:=true })
 else if successes+unfinished<s.policy.minimumSuccesses then
  (.failed (.insufficientSuccesses successes s.policy.minimumSuccesses) s.cancelSiblings,
   { s with terminal:=true })
 else (.pending,s)

end TaskGroupState

/-- One of `record_started`, `record_success`, `record_failure` and `record_cancelled`. -/
inductive Report (ε ρ:Type) where
 | started (childId:String)
 | success (childId:String)
 | failure (childId:String) (error:ε)
 | cancelled (childId:String) (reason:ρ)

namespace Report

def childId : Report ε ρ→String
 | .started childId | .success childId | .failure childId _ | .cancelled childId _=>childId

def state : Report ε ρ→ChildTaskState ε ρ
 | .started _=>.running
 | .success _=>.succeeded
 | .failure _ error=>.failed error
 | .cancelled _ reason=>.cancelled reason

/-- The report ends its child. -/
def isFinal (report : Report ε ρ) : Bool := report.state.isTerminal

end Report

def record (s:TaskGroupState ε ρ) (report:Report ε ρ) :
  Except TaskGroupError (TaskGroupDecision ε) × TaskGroupState ε ρ :=
 match s.setChildState report.childId report.state with
 | .error e=>(.error e,s)
 | .ok updated=>
  match report,updated.policy.failure with
  | .started _,_=>(.ok .pending,updated)
  | .failure childId error,.failFast=>
   (.ok (.failed (.childFailed childId error) updated.cancelSiblings),
    { updated with terminal:=true })
  | _,_=>updated.evaluateProgress.map .ok id

def TaskGroupDecision.isPending : TaskGroupDecision ε→Bool
 | .pending=>true
 | _=>false

def TaskGroupDecision.isSucceeded : TaskGroupDecision ε→Bool
 | .succeeded _ _=>true
 | _=>false

variable {s:TaskGroupState ε ρ} {report:Report ε ρ}

lemma record_collect {current : ChildTaskState ε ρ} (hopen : s.terminal = false)
  (hcollect : s.policy.failure = .collect) (hfinal : report.isFinal = true)
  (hchild : s.children[report.childId]? = some current) (hlive : current.isTerminal = false) :
  record s report = (TaskGroupState.evaluateProgress
   { s with children := s.children.insert report.childId report.state }).map .ok id := by
 have hset:s.setChildState report.childId report.state =
   .ok { s with children:=s.children.insert report.childId report.state }:=by
  simp [TaskGroupState.setChildState,hopen,hchild,hlive]
 unfold record
 rw [hset]
 dsimp only
 rw [hcollect]
 cases report with
 | started childId=>cases hfinal
 | _=>rfl

/-- A start leaves the group pending, or it is refused. -/
lemma record_started (hopen : s.terminal = false) (childId : String) :
  (∃ e, record s (.started childId) = (.error e, s)) ∨
  ∃ current, s.children[childId]? = some current ∧ current.isTerminal = false ∧
   record s (.started childId) =
    (.ok .pending, { s with children := s.children.insert childId .running }) := by
 unfold record
 simp only [TaskGroupState.setChildState,Report.childId,Report.state,hopen]
 cases hchild:s.children[childId]? with
 | none=>exact .inl ⟨_,rfl⟩
 | some current=>
  cases hlive:current.isTerminal with
  | true=>exact .inl ⟨.childAlreadyTerminal childId,by simp [hlive]⟩
  | false=>exact .inr ⟨current,rfl,hlive,by simp [hlive]⟩

lemma record_closed(hclosed:s.terminal=true)(report:Report ε ρ):
  record s report=(.error .alreadyTerminal,s):=by
 simp [record,TaskGroupState.setChildState,hclosed]

lemma countStates_insert {p : ChildTaskState ε ρ → Bool} {children : Children ε ρ}
  {childId : String} {current : ChildTaskState ε ρ} (hchild : children[childId]? = some current)
  (state : ChildTaskState ε ρ) :
  countStates p (children.insert childId state) + (if p current then 1 else 0) =
   countStates p children + (if p state then 1 else 0) :=
 sumOf_insert_bound (fun _ state=>if p state then 1 else 0) state hchild

section
variable {children : Children ε ρ} {childId : String} {current : ChildTaskState ε ρ}
 (hchild : children[childId]? = some current) (hlive : current.isTerminal = false)
include hchild hlive

lemma successes_insert (state : ChildTaskState ε ρ) :
  countStates ChildTaskState.isSuccess (children.insert childId state) =
   countStates ChildTaskState.isSuccess children + (if state.isSuccess then 1 else 0) := by
 have hnot:current.isSuccess=false:=by
  cases current with
  | succeeded=>cases hlive
  | _=>rfl
 have h:=@countStates_insert _ _ ChildTaskState.isSuccess _ _ _ hchild state
 rw [hnot] at h
 exact h

lemma unfinished_insert (state : ChildTaskState ε ρ) :
  countStates (fun state => !state.isTerminal) (children.insert childId state) + 1 =
   countStates (fun state => !state.isTerminal) children +
    (if state.isTerminal then 0 else 1) := by
 have h:=@countStates_insert _ _ (fun state=>!state.isTerminal) _ _ _ hchild state
 rw [hlive] at h
 refine h.trans ?_
 cases state.isTerminal <;>rfl
end

/-- What is still to come when every remaining child of an undecided group ends once. -/
structure Undecided (s:TaskGroupState ε ρ) (rest:List (Report ε ρ)) : Prop where
 isOpen:s.terminal=false
 distinct:((rest.filter Report.isFinal).map Report.childId).Nodup
 live:∀report∈rest,report.isFinal=true→∃current,s.children[report.childId]?=some current ∧
  current.isTerminal=false
 unfinished:countStates (fun state=>!state.isTerminal) s.children=rest.countP Report.isFinal
 below:countStates ChildTaskState.isSuccess s.children<s.policy.minimumSuccesses
 reachable:s.policy.minimumSuccesses ≤
  countStates ChildTaskState.isSuccess s.children+rest.countP Report.isFinal

/-- The successes among the results of `rest`, with those of the group so far. -/
def finalSuccesses (s:TaskGroupState ε ρ) (rest:List (Report ε ρ)) : ℕ :=
 countStates ChildTaskState.isSuccess s.children+rest.countP fun report=>report.state.isSuccess

/-- A report that leaves the group pending, or a start that is refused. -/
def Waits (t : Transition (TaskGroupState ε ρ) (Report ε ρ)
  (Except TaskGroupError (TaskGroupDecision ε))) : Prop :=
 t.response = .ok .pending ∨ t.call.isFinal = false ∧ ∃ e, t.response = .error e

/-- The group closes at one of the reports, all earlier ones leave it pending. -/
def DecidesOnce (s:TaskGroupState ε ρ) (rest:List (Report ε ρ)) (verdict:Prop) : Prop :=
 ∃before decided after decision closed,rest=before++decided::after ∧
  (∀t∈history record s before,Waits t) ∧
  record (execute record s before) decided=(.ok decision,closed)∧decision.isPending=false ∧
  (decision.isSucceeded=true↔verdict) ∧
  ∀report,record closed report=(.error .alreadyTerminal,closed)

variable {rest:List (Report ε ρ)}

lemma DecidesOnce.cons {later : TaskGroupState ε ρ} {verdict : Prop}
  (h : DecidesOnce later rest verdict) (hnext : (record s report).2 = later)
  (hwaits : Waits (takeStep record s report)) : DecidesOnce s (report :: rest) verdict := by
 obtain ⟨before,decided,after,decision,closed,hsplit,hpast,hdecided,hfinal,hverdict,hclosed⟩:=h
 refine ⟨report::before,decided,after,decision,closed,by rw [hsplit];rfl,?_,?_,hfinal,hverdict,
  hclosed⟩
 · intro t ht
   rcases mem_cons.mp ht with rfl|ht
   · exact hwaits
   · rw [hnext] at ht
     exact hpast t ht
 · rw [execute_cons,hnext]
   exact hdecided

lemma Undecided.started {childId : String} (h : Undecided s (.started childId :: rest)) :
  Undecided (record s (.started childId)).2 rest ∧
  finalSuccesses (record s (.started childId)).2 rest =
   finalSuccesses s (.started childId :: rest) ∧
  (record s (.started childId)).2.policy = s.policy ∧
  Waits (takeStep record s (.started childId)) := by
 have hlive:=fun report hmem=>h.live report (mem_cons_of_mem _ hmem)
 rcases record_started h.isOpen childId with ⟨e,hrecord⟩|⟨current,hchild,hterminal,hrecord⟩
 · refine ⟨?_,?_,?_,.inr ⟨rfl,e,congrArg Prod.fst hrecord⟩⟩
   · rw [hrecord]
     exact ⟨h.isOpen,h.distinct,hlive,h.unfinished,h.below,h.reachable⟩
   · rw [hrecord]
     rfl
   · rw [hrecord]
 · have hsuccess:=successes_insert hchild hterminal .running
   have hunfinished:=unfinished_insert hchild hterminal .running
   refine ⟨?_,?_,?_,.inl (congrArg Prod.fst hrecord)⟩
   · rw [hrecord]
     refine ⟨h.isOpen,h.distinct,?_,?_,?_,?_⟩
     · intro report hmem hfinal
       by_cases hsame:childId=report.childId
       · exact ⟨.running,by rw [←hsame];exact lookup_insert_self _ _ _,rfl⟩
       · obtain ⟨state,hstate,hopen⟩:=hlive report hmem hfinal
         exact ⟨state,(lookup_insert_ne _ _ hsame).trans hstate,hopen⟩
     · exact (Nat.add_right_cancel hunfinished).trans h.unfinished
     · rw [hsuccess]
       exact h.below
     · rw [hsuccess]
       exact h.reachable
   · rw [hrecord,finalSuccesses,hsuccess]
     rfl
   · rw [hrecord]

lemma Undecided.decides(h:Undecided s rest)(hcollect:s.policy.failure=.collect):
  DecidesOnce s rest (s.policy.minimumSuccesses≤finalSuccesses s rest):=by
 induction rest generalizing s with
 | nil=>exact absurd h.reachable (Nat.not_le.mpr h.below)
 | cons report rest ih=>
  cases hfinal:report.isFinal with
  | false=>
   obtain ⟨childId,rfl⟩:∃childId,report=.started childId:=by
    cases report with
    | started childId=>exact ⟨childId,rfl⟩
    | _=>cases hfinal
   obtain ⟨hlater,hcount,hpolicy,hwaits⟩:=h.started
   rw [←hcount,←hpolicy]
   exact (ih hlater (hpolicy▸hcollect)).cons rfl hwaits
  | true=>
   obtain ⟨current,hchild,hlive⟩:=h.live report mem_cons_self hfinal
   have hrecord:=record_collect h.isOpen hcollect hfinal hchild hlive
   have hdistinct:=h.distinct
   rw [filter_cons_of_pos hfinal,map_cons] at hdistinct
   obtain ⟨hnot,hdistinct⟩:=nodup_cons.mp hdistinct
   have hsuccess:=successes_insert hchild hlive report.state
   have hunfinished:=unfinished_insert hchild hlive report.state
   have hterminal:report.state.isTerminal=true:=hfinal
   have hreachable:=h.reachable
   rw [countP_cons_of_pos hfinal] at hreachable
   rw [h.unfinished,countP_cons_of_pos hfinal,if_pos hterminal,Nat.add_zero,
    Nat.add_right_cancel_iff] at hunfinished
   have hmost:rest.countP (fun report=>report.state.isSuccess)≤rest.countP Report.isFinal:=by
    refine countP_mono_left fun report _ hsuccess=>?_
    have hstate:report.state.isSuccess=true:=by simpa using hsuccess
    unfold Report.isFinal
    cases hcase:report.state with
    | succeeded=>rfl
    | _=>
     rw [hcase] at hstate
     cases hstate
   have hcount:finalSuccesses s (report::rest)=countStates ChildTaskState.isSuccess s.children +
     (if report.state.isSuccess then 1 else 0)+rest.countP fun report=>report.state.isSuccess:=by
    rw [finalSuccesses,countP_cons,Nat.add_assoc,Nat.add_comm (rest.countP _)]
   rw [TaskGroupState.evaluateProgress] at hrecord
   dsimp only at hrecord
   rw [hsuccess,hunfinished] at hrecord
   rw [hcount]
   rw [←hsuccess] at hrecord ⊢
   split at hrecord
   · next hmet=>
    exact ⟨[],report,rest,_,_,rfl,fun _ ht=>absurd ht not_mem_nil,hrecord,rfl,
     ⟨fun _=>Nat.le_add_right_of_le hmet,fun _=>rfl⟩,record_closed rfl⟩
   · next hshort=>
    split at hrecord
    · next hlost=>
     refine ⟨[],report,rest,_,_,rfl,fun _ ht=>absurd ht not_mem_nil,hrecord,rfl,?_,
      record_closed rfl⟩
     exact ⟨fun hfailed=>Bool.noConfusion hfailed,fun hmet=>by omega⟩
    · next hhope=>
     have hlater:Undecided { s with children:=s.children.insert report.childId report.state }
       rest:=by
      refine ⟨h.isOpen,hdistinct,?_,hunfinished,Nat.lt_of_not_le hshort,Nat.le_of_not_lt hhope⟩
      intro later hmem hlast
      have hne:report.childId≠later.childId:=by
       intro hsame
       rw [hsame] at hnot
       exact hnot (mem_map_of_mem (mem_filter.mpr ⟨hmem,hlast⟩))
      rw [lookup_insert_ne _ _ hne]
      exact h.live later (mem_cons_of_mem _ hmem) hlast
     exact (ih hlater hcollect).cons (by rw [hrecord];rfl) (.inl (congrArg Prod.fst hrecord))

/-- Every child of the group is added as pending, once. -/
lemma addChildren_ok{children:List String}{states added:Children ε ρ}
  (h:addChildren children states=.ok added):children.Nodup ∧
   (∀childId∈children,added[childId]?=some .pending∧states[childId]?=none) ∧
   (∀childId,childId∉children→added[childId]?=states[childId]?) ∧
   countStates ChildTaskState.isSuccess added=countStates ChildTaskState.isSuccess states ∧
   countStates (fun state=>!state.isTerminal) added =
    countStates (fun state=>!state.isTerminal) states+children.length ∧
   added.size=states.size+children.length:=by
 induction children generalizing states with
 | nil=>
  obtain rfl:=Except.ok.inj h
  exact ⟨.nil,fun _ h=>absurd h not_mem_nil,fun _ _=>rfl,rfl,rfl,rfl⟩
 | cons childId children ih=>
  unfold addChildren at h
  split at h
  · cases h
  · next hfresh=>
   have hfree:states.contains childId=false:=Bool.eq_false_iff.mpr hfresh
   have hnone:=(contains_eq_false_iff _).mp hfree
   obtain ⟨hdistinct,hpending,hother,hsuccess,hunfinished,hsize⟩:=ih h
   have hnot:childId∉children:=by
    intro hmem
    have hgone:=(hpending childId hmem).2
    rw [lookup_insert_self] at hgone
    cases hgone
   have hcount (p:ChildTaskState ε ρ→Bool) : countStates p (states.insert childId .pending) =
     (if p .pending then 1 else 0)+countStates p states:=sumOf_insert_fresh _ _ hnone
   refine ⟨nodup_cons.mpr ⟨hnot,hdistinct⟩,?_,?_,?_,?_,?_⟩
   · intro other hmem
     rcases mem_cons.mp hmem with rfl|hmem
     · exact ⟨(hother other hnot).trans (lookup_insert_self _ _ _),hnone⟩
     · obtain ⟨hadded,hgone⟩:=hpending other hmem
       refine ⟨hadded,?_⟩
       rw [lookup_insert_ne] at hgone
       · exact hgone
       · rintro rfl
         exact hnot hmem
   · intro other hmem
     obtain ⟨hne,hmem⟩:=not_or.mp (mt mem_cons.mpr hmem)
     rw [hother other hmem,lookup_insert_ne _ _ (Ne.symm hne)]
   · rw [hsuccess,hcount]
     exact Nat.zero_add _
   · rw [hunfinished,hcount,length_cons]
     simp only [ChildTaskState.isTerminal,Bool.not_false,if_true]
     omega
   · rw [hsize,size_insert,hfree,length_cons]
     simp only [Bool.false_eq_true,if_false]
     omega

theorem task_group_decides_once (children : List String) (policy : TaskGroupPolicy)
  (s : TaskGroupState ε ρ) (h : TaskGroupState.new children policy=.ok s)
  (hcollect : policy.failure=.collect) (reports : List (Report ε ρ))
  (hreports : ((reports.filter Report.isFinal).map Report.childId).Perm children) :
  DecidesOnce s reports
   (policy.minimumSuccesses≤reports.countP fun report=>report.state.isSuccess) := by
 obtain ⟨states,hadded,h⟩:=bind_ok.mp h
 obtain ⟨_,hminimum,h⟩:=bind_ok.mp h
 obtain rfl:=Except.ok.inj h
 have hminimum:=ensure_ok.mp hminimum
 simp only [Bool.and_eq_true,bne_iff_ne,decide_eq_true_eq] at hminimum
 obtain ⟨hdistinct,hpending,-,hsuccess,hunfinished,hsize⟩:=addChildren_ok hadded
 have hlength:reports.countP Report.isFinal=children.length:=by
  rw [←hreports.length_eq,length_map,countP_eq_length_filter]
 have hnone:countStates ChildTaskState.isSuccess states=0:=hsuccess.trans (sumOf_empty _)
 have hopen:Undecided { policy,children:=states,terminal:=false } reports:=by
  refine ⟨rfl,hreports.nodup_iff.mpr hdistinct,?_,?_,?_,?_⟩
  · intro report hmem hfinal
    have hchild:=hreports.mem_iff.mp (mem_map_of_mem (mem_filter.mpr ⟨hmem,hfinal⟩))
    exact ⟨.pending,(hpending _ hchild).1,rfl⟩
  · rw [hunfinished,hlength]
    exact (congrArg (· + _) (sumOf_empty _)).trans (Nat.zero_add _)
  · exact hnone▸Nat.pos_of_ne_zero hminimum.1
  · have hempty:(∅:Children ε ρ).size=0:=size_empty
    rw [hsize,hempty] at hminimum
    dsimp only
    omega
 have hdecides:=hopen.decides hcollect
 unfold finalSuccesses at hdecides
 rw [hnone,Nat.zero_add] at hdecides
 exact hdecides
end

theorem pair_decides_once : ∃s:TaskGroupState Unit Unit,
  TaskGroupState.new ["a","b"] ⟨1,.collect,.keepRunning⟩=.ok s ∧
  DecidesOnce s [.started "a",.failure "b" (),.success "a"] (1≤1) := by
 have hok:(TaskGroupState.new ["a","b"] ⟨1,.collect,.keepRunning⟩ :
   Except _ (TaskGroupState Unit Unit)).isOk=true:=by decide +kernel
 cases h:(TaskGroupState.new ["a","b"] ⟨1,.collect,.keepRunning⟩ :
   Except _ (TaskGroupState Unit Unit)) with
 | error e=>
  rw [h] at hok
  cases hok
 | ok s=>
  exact ⟨s,rfl,task_group_decides_once ["a","b"] ⟨1,.collect,.keepRunning⟩ s h rfl
   [.started "a",.failure "b" (),.success "a"] (List.Perm.swap _ _ _)⟩

end GraphBlocks.TaskGroups
