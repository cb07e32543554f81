import GraphBlocks.DependencyOrder
import GraphBlocks.MachineRuns
import GraphBlocks.OrderedMap
import GraphBlocks.ToolCallModel

/-! `ToolExecutionPlan` and `SequentialToolQueue` of the runtime core. -/
namespace GraphBlocks.ToolExecution
open Std Json DependencyOrder RustStd Tools

inductive ToolExecutionFailurePolicy where
 | failFast | collect | returnFailuresToModel
deriving DecidableEq

inductive ToolExecutionCancellationPolicy where
 | cancelDependents | cancelAll | allowIndependentCalls

inductive ToolExecutionState where
 | pending | running | completed | failed | denied | cancelled | policyStopped | expired | skipped
deriving DecidableEq

inductive PendingToolCallsDisposition where
 | keep | deny | cancelAdmitted
deriving DecidableEq

inductive ToolExecutionPlanError where
 | emptyField (field:String)
 | invalidMaximumParallelism
 | invalidToolCall (source:ToolCallError)
 | duplicateToolCall (toolCallId:String)
 | responseMismatch (toolCallId expectedResponseId actualResponseId:String)
 | unknownDependency (toolCallId dependencyId:String)
 | duplicateDependency (toolCallId dependencyId:String)
 | dependencyCycle (toolCallId:String)
 | unknownToolCall (toolCallId:String)
 | toolCallNotPending (toolCallId:String) (current:ToolExecutionState)
 | toolCallNotRunning (toolCallId:String) (current:ToolExecutionState)
 | dependenciesNotReady (toolCallId:String)
 | parallelismExhausted
 | effectConflict (effectKey:String)
 | emptyEffectKey (toolCallId:String)
 | conflictingToolEffects (toolCallId:String)
 | unsafeParallelEffects (toolCallId:String)

structure ToolPlanCall where
 call:ToolCall
 effectKey:Option String
 effects:Finset ToolEffect
 cancellation:ToolCancellation

abbrev Calls := ExtTreeMap String ToolPlanCall

abbrev States := ExtTreeMap String ToolExecutionState

structure ToolExecutionPlan where
 planId:String
 responseId:String
 maximumParallelism:ℕ
 failurePolicy:ToolExecutionFailurePolicy
 cancellationPolicy:ToolExecutionCancellationPolicy
 calls:Calls
 states:States

def isStateChanging : ToolEffect→Bool
 | .externalWrite | .filesystemWrite | .process | .destructive=>true
 | .none | .externalRead | .filesystemRead | .network=>false

def hasStateChangingToolEffects (effects:Finset ToolEffect) : Bool :=
 decide (∃effect∈effects,isStateChanging effect=true)

def dependencies (calls:Calls) (toolCallId:String) : List String :=
 (calls[toolCallId]?.map fun planned=>planned.call.dependsOn).getD []

/-- `depends_on`. In an acyclic plan no chain of dependencies is longer than the plan. -/
def dependsOn (calls:Calls) (toolCallId dependencyId:String) : Bool :=
 reaches (dependencies calls) calls.size toolCallId dependencyId

section
variable (d:StringDisplay) (sha256:List Char→String)

/-- The body of the first loop of `new`. -/
def indexCall (responseId:String) (index:Calls×States) (planned:ToolPlanCall) :
  Except ToolExecutionPlanError (Calls×States) := do
 (planned.call.validate d sha256).mapError .invalidToolCall
 let toolCallId:=planned.call.toolCallId
 ensure (planned.call.responseId==responseId)
  (.responseMismatch toolCallId responseId planned.call.responseId)
 ensure (!planned.effectKey.any isBlank) (.emptyEffectKey toolCallId)
 ensure (!hasConflictingToolEffects planned.effects) (.conflictingToolEffects toolCallId)
 ensure (!index.1.contains toolCallId) (.duplicateToolCall toolCallId)
 return (index.1.insert toolCallId planned,index.2.insert toolCallId .pending)

def indexCalls (responseId:String) (index:Calls×States) :
  List ToolPlanCall→Except ToolExecutionPlanError (Calls×States)
 | []=>.ok index
 | planned::rest=>do
  let index ← indexCall d sha256 responseId index planned
  indexCalls responseId index rest

/-- The loop over the dependencies of one call; `seen` is the set of those before. -/
def checkDependencies (calls:Calls) (toolCallId:String) (seen:List String) :
  List String→Except ToolExecutionPlanError Unit
 | []=>.ok ()
 | dependencyId::rest=>do
  ensure (!seen.contains dependencyId) (.duplicateDependency toolCallId dependencyId)
  ensure (calls.contains dependencyId) (.unknownDependency toolCallId dependencyId)
  checkDependencies calls toolCallId (dependencyId::seen) rest

def checkAllDependencies (calls:Calls) :
  List (String×ToolPlanCall)→Except ToolExecutionPlanError Unit
 | []=>.ok ()
 | (toolCallId,planned)::rest=>do
  checkDependencies calls toolCallId [] planned.call.dependsOn
  checkAllDependencies calls rest

/-- The calls that the cycle check cannot drain. -/
def remainingDependencies (calls:Calls) : Remaining String :=
 let remaining:=calls.toList.map fun e=>(e.1,e.2.call.dependsOn)
 let ready:=(remaining.filter fun e=>e.2.isEmpty).map Prod.fst
 (drain calls.size remaining ready).1

def checkAcyclic (calls:Calls) : Except ToolExecutionPlanError Unit :=
 match remainingDependencies calls with
 | []=>.ok ()
 | (toolCallId,_)::_=>.error (.dependencyCycle toolCallId)

/-- The inner loop of the check for unsafe parallel effects. -/
def checkAgainst (calls:Calls) (leftId:String) (left:ToolPlanCall) :
  List (String×ToolPlanCall)→Except ToolExecutionPlanError Unit
 | []=>.ok ()
 | (rightId,right)::rest=>
  if !hasStateChangingToolEffects right.effects then checkAgainst calls leftId left rest
  else if dependsOn calls leftId rightId||dependsOn calls rightId leftId then
   checkAgainst calls leftId left rest
  else if left.effectKey.isNone then .error (.unsafeParallelEffects leftId)
  else if right.effectKey.isNone then .error (.unsafeParallelEffects rightId)
  else if left.effectKey=right.effectKey then .error (.unsafeParallelEffects rightId)
  else checkAgainst calls leftId left rest

def checkParallelEffects (calls:Calls) :
  List (String×ToolPlanCall)→Except ToolExecutionPlanError Unit
 | []=>.ok ()
 | (leftId,left)::rest=>
  if !hasStateChangingToolEffects left.effects then checkParallelEffects calls rest
  else do
   checkAgainst calls leftId left rest
   checkParallelEffects calls rest

def ToolExecutionPlan.new (planId responseId:String) (calls:List ToolPlanCall)
  (maximumParallelism:ℕ) : Except ToolExecutionPlanError ToolExecutionPlan := do
 requireFields .emptyField [("plan_id",planId),("response_id",responseId)]
 ensure (maximumParallelism != 0) .invalidMaximumParallelism
 let (indexedCalls,states) ← indexCalls d sha256 responseId (∅,∅) calls
 checkAllDependencies indexedCalls indexedCalls.toList
 checkAcyclic indexedCalls
 if 1< maximumParallelism then checkParallelEffects indexedCalls indexedCalls.toList
 return { planId,responseId,maximumParallelism,failurePolicy:=.returnFailuresToModel
          cancellationPolicy:=.cancelDependents,calls:=indexedCalls,states }
end

section
variable (p:ToolExecutionPlan)

def runningIds (states:States) : List String :=
 (states.toList.filter fun e=>e.2 == .running).map Prod.fst

def runningCount : ℕ := (p.states.toList.filter fun e=>e.2 == .running).length

/-- `running_effect_keys`, as the list of the elements of the set. -/
def runningEffectKeys : List String :=
 (runningIds p.states).filterMap fun id=>p.calls[id]?.bind ToolPlanCall.effectKey

def dependenciesCompleted (call:ToolCall) : Bool :=
 call.dependsOn.all fun dependency=>p.states[dependency]?==some .completed

/-- The loop of `ready_call_ids`. -/
def readyLoop : List (String×ToolPlanCall)→(remainingSlots:ℕ) →
  (reservedEffectKeys:List String)→List String
 | [], _, _=>[]
 | (toolCallId,planned)::rest, remainingSlots, reserved=>
  if remainingSlots=0 then []
  else if p.states[toolCallId]?≠some .pending then readyLoop rest remainingSlots reserved
  else if !dependenciesCompleted p planned.call then readyLoop rest remainingSlots reserved
  else if planned.effectKey.any reserved.contains then readyLoop rest remainingSlots reserved
  else toolCallId::readyLoop rest (remainingSlots-1) (planned.effectKey.toList++reserved)

def readyCallIds : List String :=
 if p.maximumParallelism≤runningCount p then []
 else readyLoop p p.calls.toList (p.maximumParallelism-runningCount p) (runningEffectKeys p)

def withState (toolCallId:String) (state:ToolExecutionState) : ToolExecutionPlan :=
 { p with states:=p.states.insert toolCallId state }

def recordStarted (toolCallId:String) : Except ToolExecutionPlanError Unit×ToolExecutionPlan :=
 match p.states[toolCallId]? with
 | none=>(.error (.unknownToolCall toolCallId),p)
 | some current=>
  if current ≠ .pending then (.error (.toolCallNotPending toolCallId current),p)
  else match p.calls[toolCallId]? with
   | none=>(.error (.unknownToolCall toolCallId),p)
   | some planned=>
    if !dependenciesCompleted p planned.call then (.error (.dependenciesNotReady toolCallId),p)
    else if p.maximumParallelism≤runningCount p then (.error .parallelismExhausted,p)
    else match planned.effectKey.filter (runningEffectKeys p).contains with
     | some effectKey=>(.error (.effectConflict effectKey),p)
     | none=>(.ok (),withState p toolCallId .running)

def enterTerminal (toolCallId:String) (terminalState:ToolExecutionState) :
  Except ToolExecutionPlanError Unit×ToolExecutionPlan :=
 match p.states[toolCallId]? with
 | none=>(.error (.unknownToolCall toolCallId),p)
 | some current=>
  if current ≠ .running then (.error (.toolCallNotRunning toolCallId current),p)
  else (.ok (),withState p toolCallId terminalState)

def enterPendingTerminal (toolCallId:String) (terminalState:ToolExecutionState) :
  Except ToolExecutionPlanError Unit×ToolExecutionPlan :=
 match p.states[toolCallId]? with
 | none=>(.error (.unknownToolCall toolCallId),p)
 | some current=>
  if current ≠ .pending then (.error (.toolCallNotPending toolCallId current),p)
  else (.ok (),withState p toolCallId terminalState)

/-- The states in which a call ends without a result. -/
def ToolExecutionState.isBlocking : ToolExecutionState→Bool
 | .failed | .denied | .cancelled | .policyStopped | .expired | .skipped=>true
 | .pending | .running | .completed=>false

def isBlocked (states:States) (planned:ToolPlanCall) : Bool :=
 planned.call.dependsOn.any fun dependency=>states[dependency]?.any ToolExecutionState.isBlocking

/-- The pending calls that one round of `mark_blocked_dependents` finds blocked. -/
def blockedIds (calls:Calls) (states:States) : List String :=
 (calls.toList.filter fun e=>states[e.1]?==some .pending&&isBlocked states e.2).map Prod.fst

def insertAll (states:States) (ids:List String) (state:ToolExecutionState) : States :=
 ids.foldl (fun states id=>states.insert id state) states

/-- The loop of `mark_blocked_dependents`; each round but the last ends a pending call. -/
def markLoop (calls:Calls) (blockedState:ToolExecutionState) : (rounds:ℕ)→States→States
 | 0, states=>states
 | rounds+1, states=>
  match blockedIds calls states with
  | []=>states
  | blocked=>markLoop calls blockedState rounds (insertAll states blocked blockedState)

def markBlockedDependents (blockedState:ToolExecutionState) : ToolExecutionPlan :=
 { p with states:=markLoop p.calls blockedState p.states.size p.states }

/-- `for state in self.states.values_mut() { if condition { *state = target } }`. -/
def rewriteStates (condition:ToolExecutionState→Bool) (target:ToolExecutionState) :
  ToolExecutionPlan :=
 { p with states:=p.states.map fun _ state=>if condition state then target else state }

def recordCompleted (toolCallId:String) : Except ToolExecutionPlanError Unit×ToolExecutionPlan :=
 enterTerminal p toolCallId .completed

/-- What `record_failed` does once the call has failed. -/
def afterFailure : ToolExecutionPlan :=
 let marked:=markBlockedDependents p .skipped
 if marked.failurePolicy=.failFast then rewriteStates marked (· == .pending) .cancelled
 else marked

/-- What `record_cancelled` does once the call is cancelled. -/
def afterCancellation : ToolExecutionPlan :=
 match p.cancellationPolicy with
 | .cancelDependents=>markBlockedDependents p .cancelled
 | .cancelAll=>rewriteStates p (fun state=>state == .pending||state == .running) .cancelled
 | .allowIndependentCalls=>markBlockedDependents p .skipped

/-- `f()?` followed by a rewrite of the plan that cannot fail. -/
def andThen (out:Except ToolExecutionPlanError Unit×ToolExecutionPlan)
  (rewrite:ToolExecutionPlan→ToolExecutionPlan) :
  Except ToolExecutionPlanError Unit×ToolExecutionPlan :=
 match out with
 | (.error e,p)=>(.error e,p)
 | (.ok (),p)=>(.ok (),rewrite p)

def recordFailed (toolCallId:String) : Except ToolExecutionPlanError Unit×ToolExecutionPlan :=
 andThen (enterTerminal p toolCallId .failed) afterFailure

def recordDenied (toolCallId:String) : Except ToolExecutionPlanError Unit×ToolExecutionPlan :=
 andThen (enterPendingTerminal p toolCallId .denied) (markBlockedDependents · .skipped)

def recordExpired (toolCallId:String) : Except ToolExecutionPlanError Unit×ToolExecutionPlan :=
 andThen (enterPendingTerminal p toolCallId .expired) (markBlockedDependents · .skipped)

def recordCancelled (toolCallId:String) : Except ToolExecutionPlanError Unit×ToolExecutionPlan :=
 andThen (enterTerminal p toolCallId .cancelled) afterCancellation

def recordPolicyStopped (toolCallId:String) :
  Except ToolExecutionPlanError Unit×ToolExecutionPlan :=
 andThen (enterTerminal p toolCallId .policyStopped) (markBlockedDependents · .skipped)

def isReadOnly : ToolEffect→Bool
 | .none | .externalRead | .filesystemRead | .network=>true
 | .externalWrite | .filesystemWrite | .process | .destructive=>false

/-- Whether a policy stop may cancel the call while it runs. -/
def canCancelRunning (planned:ToolPlanCall) : Bool :=
 planned.cancellation == .forceTerminable
  || (planned.cancellation == .cooperative
   && decide (∀effect∈planned.effects,isReadOnly effect=true))

/-- The state that a policy stop gives a call, if it affects the call. -/
def stoppedState (pendingToolCalls:PendingToolCallsDisposition) (toolCallId:String)
  (state:ToolExecutionState) : Option ToolExecutionState :=
 match pendingToolCalls with
 | .keep=>none
 | .deny=>if state=.pending then some .denied else none
 | .cancelAdmitted=>
  if state=.running then if p.calls[toolCallId]?.any canCancelRunning then some .cancelled else none
  else if state=.pending then some .denied
  else none

def applyPolicyStop (pendingToolCalls:PendingToolCallsDisposition) :
  List String×ToolExecutionPlan :=
 ((p.states.toList.filter fun e=>(stoppedState p pendingToolCalls e.1 e.2).isSome).map Prod.fst,
  { p with states:=p.states.map fun toolCallId state=>
     (stoppedState p pendingToolCalls toolCallId state).getD state })
end

inductive PlanCall where
 | recordStarted (toolCallId:String)
 | recordCompleted (toolCallId:String)
 | recordFailed (toolCallId:String)
 | recordDenied (toolCallId:String)
 | recordExpired (toolCallId:String)
 | recordCancelled (toolCallId:String)
 | recordPolicyStopped (toolCallId:String)
 | applyPolicyStop (pendingToolCalls:PendingToolCallsDisposition)
 | withFailurePolicy (policy:ToolExecutionFailurePolicy)
 | withCancellationPolicy (policy:ToolExecutionCancellationPolicy)

inductive PlanAnswer where
 | done
 | affected (ids:List String)

def answered (out:Except ToolExecutionPlanError Unit×ToolExecutionPlan) :
  Except ToolExecutionPlanError PlanAnswer×ToolExecutionPlan :=
 (out.1.map fun _=>.done,out.2)

def planStep (p:ToolExecutionPlan) :
  PlanCall→Except ToolExecutionPlanError PlanAnswer×ToolExecutionPlan
 | .recordStarted id=>answered (recordStarted p id)
 | .recordCompleted id=>answered (recordCompleted p id)
 | .recordFailed id=>answered (recordFailed p id)
 | .recordDenied id=>answered (recordDenied p id)
 | .recordExpired id=>answered (recordExpired p id)
 | .recordCancelled id=>answered (recordCancelled p id)
 | .recordPolicyStopped id=>answered (recordPolicyStopped p id)
 | .applyPolicyStop pendingToolCalls=>
  (.ok (.affected (applyPolicyStop p pendingToolCalls).1),(applyPolicyStop p pendingToolCalls).2)
 | .withFailurePolicy policy=>(.ok .done,{ p with failurePolicy:=policy })
 | .withCancellationPolicy policy=>(.ok .done,{ p with cancellationPolicy:=policy })

inductive SequentialToolQueueError where
 | toolCallNotAdmitted (toolCallId:String) (status:ToolCallStatus)
 | toolCallMissingAdmissionTimestamp (toolCallId:String)
 | runningCallMismatch (expected actual:String)
 | plan (error:ToolExecutionPlanError)

structure SequentialToolQueue where
 plan:ToolExecutionPlan
 runningCallId:Option String

def checkAdmitted : List ToolPlanCall→Except SequentialToolQueueError Unit
 | []=>.ok ()
 | planned::rest=>do
  ensure (planned.call.status == .admitted)
   (.toolCallNotAdmitted planned.call.toolCallId planned.call.status)
  ensure planned.call.admittedAtUnixMs.isSome
   (.toolCallMissingAdmissionTimestamp planned.call.toolCallId)
  checkAdmitted rest

def SequentialToolQueue.new (d:StringDisplay) (sha256:List Char→String)
  (planId responseId:String) (calls:List ToolPlanCall) :
  Except SequentialToolQueueError SequentialToolQueue := do
 checkAdmitted calls
 let plan ← (ToolExecutionPlan.new d sha256 planId responseId calls 1).mapError .plan
 return { plan,runningCallId:=none }

section
variable (q:SequentialToolQueue)

def ensureRunningCall (toolCallId:String) : Except SequentialToolQueueError Unit :=
 match q.runningCallId with
 | some running=>
  if running≠toolCallId then .error (.runningCallMismatch running toolCallId) else .ok ()
 | none=>.ok ()

def startNextReady : Except SequentialToolQueueError (Option String)×SequentialToolQueue :=
 if q.runningCallId.isSome then (.ok none,q)
 else match (readyCallIds q.plan).head? with
  | none=>(.ok none,q)
  | some toolCallId=>
   match recordStarted q.plan toolCallId with
   | (.error e,plan)=>(.error (.plan e),{ q with plan })
   | (.ok (),plan)=>(.ok (some toolCallId),{ plan,runningCallId:=some toolCallId })

def finishRunning (record:ToolExecutionPlan→String →
  Except ToolExecutionPlanError Unit×ToolExecutionPlan) (toolCallId:String) :
  Except SequentialToolQueueError Unit×SequentialToolQueue :=
 match ensureRunningCall q toolCallId with
 | .error e=>(.error e,q)
 | .ok ()=>
  match record q.plan toolCallId with
  | (.error e,plan)=>(.error (.plan e),{ q with plan })
  | (.ok (),plan)=>(.ok (),{ plan,runningCallId:=none })

def recordPending (record:ToolExecutionPlan→String →
  Except ToolExecutionPlanError Unit×ToolExecutionPlan) (toolCallId:String) :
  Except SequentialToolQueueError Unit×SequentialToolQueue :=
 ((record q.plan toolCallId).1.mapError .plan,{ q with plan:=(record q.plan toolCallId).2 })

def queueApplyPolicyStop (pendingToolCalls:PendingToolCallsDisposition) :
  List String×SequentialToolQueue :=
 let (affected,plan):=applyPolicyStop q.plan pendingToolCalls
 (affected,{ plan,runningCallId:=
  if q.runningCallId.any affected.contains then none else q.runningCallId })
end

inductive QueueCall where
 | startNextReady
 | recordCompleted (toolCallId:String)
 | recordFailed (toolCallId:String)
 | recordDenied (toolCallId:String)
 | recordExpired (toolCallId:String)
 | recordCancelled (toolCallId:String)
 | applyPolicyStop (pendingToolCalls:PendingToolCallsDisposition)
 | withFailurePolicy (policy:ToolExecutionFailurePolicy)
 | withCancellationPolicy (policy:ToolExecutionCancellationPolicy)

inductive QueueAnswer where
 | done
 | started (toolCallId:Option String)
 | affected (ids:List String)

def queueAnswered (out:Except SequentialToolQueueError Unit×SequentialToolQueue) :
  Except SequentialToolQueueError QueueAnswer×SequentialToolQueue :=
 (out.1.map fun _=>.done,out.2)

def queueStep (q:SequentialToolQueue) :
  QueueCall→Except SequentialToolQueueError QueueAnswer×SequentialToolQueue
 | .startNextReady=>((startNextReady q).1.map .started,(startNextReady q).2)
 | .recordCompleted id=>queueAnswered (finishRunning q recordCompleted id)
 | .recordFailed id=>queueAnswered (finishRunning q recordFailed id)
 | .recordDenied id=>queueAnswered (recordPending q recordDenied id)
 | .recordExpired id=>queueAnswered (recordPending q recordExpired id)
 | .recordCancelled id=>queueAnswered (finishRunning q recordCancelled id)
 | .applyPolicyStop pendingToolCalls=>
  (.ok (.affected (queueApplyPolicyStop q pendingToolCalls).1),
   (queueApplyPolicyStop q pendingToolCalls).2)
 | .withFailurePolicy policy=>(.ok .done,{ q with plan:={ q.plan with failurePolicy:=policy } })
 | .withCancellationPolicy policy=>
  (.ok .done,{ q with plan:={ q.plan with cancellationPolicy:=policy } })

end GraphBlocks.ToolExecution
