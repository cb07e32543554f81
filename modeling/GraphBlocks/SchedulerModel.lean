import GraphBlocks.FiniteMap
import GraphBlocks.JsonValue
import GraphBlocks.MachineRuns
import GraphBlocks.RustStd
import Mathlib.Data.List.Sort

/-! `ReadinessTracker` and `LocalScheduler` of the runtime core. -/
namespace GraphBlocks.Scheduler
open FiniteMap RustStd Json

structure SkipReason where
 code:String
 message:Option String

structure PolicyDecisionRef where
 decisionId:String

structure BudgetExhaustion where
 code:String
 message:Option String

structure PauseReason where
 code:String
 message:Option String

inductive CancelCode where
 | clientDisconnect | userCancel | timeout | superseded | policyDenied | budgetExhausted
 | providerQuotaExhausted | dependencyFailed | shutdown | bargeIn | rolloutDrain | leaseLost
 | entitlementRevoked
deriving DecidableEq

structure CancelReason where
 code:CancelCode
 message:Option String
 requestedBy:Option String
 policyDecisionRef:Option String

inductive ErrorCategory where
 | validation | configuration | authentication | authorization | notFound | rateLimit | quota
 | budget | capacity | timeout | transient | permanent | provider | policy | cancelled
 | conflict | internal
deriving DecidableEq

structure BlockError where
 code:String
 category:ErrorCategory
 message:String
 retryable:Bool
 details:FMap String Value
 causeChain:List String

def BlockError.new (code:String) (category:ErrorCategory) (message:String)
  (retryable:Bool) : BlockError :=
 { code,category,message,retryable,details:=∅,causeChain:=[] }

inductive Outcome where
 | value (v:Value)
 | absent
 | skipped (reason:SkipReason)
 | denied (decision:PolicyDecisionRef)
 | budgetExhausted (exhaustion:BudgetExhaustion)
 | paused (reason:PauseReason)
 | failed (error:BlockError)
 | cancelled (reason:CancelReason)

structure PortRef where
 node:String
 port:String
deriving DecidableEq

inductive InputMode where
 | value | outcome

structure InputDependency where
 input:String
 source:PortRef
 sourcePath:List String
 mode:InputMode

inductive ResolvedInput where
 | value (v:Value)
 | outcome (o:Outcome)

abbrev Inputs := FMap String ResolvedInput

inductive Readiness where
 | ready (inputs:Inputs)
 | waiting (missing:List PortRef)
 | blocked (input:String) (source:PortRef) (outcome:Outcome)

abbrev Signals := FMap PortRef Outcome

/-- Digits without a leading zero that fit a `usize`. -/
def arrayIndex (segment:String) : Option ℕ :=
 let digits:=segment.toList
 if !digits.isEmpty&&digits.all Char.isDigit&&(digits.length==1||digits.head? != some '0')
 then
  let index:=Nat.ofDigitChars 10 digits 0
  if index<u64Limit then some index else none
 else none

def nestedValue (v:Value) (segment:String) : Option Value :=
 match v with
 | .object members=>members.lookup segment
 | .array items=>(arrayIndex segment).bind fun index=>items[index]?
 | _=>none

def resolvePath (v:Value) : List String→Option Value
 | []=>some v
 | segment::path=>(nestedValue v segment).bind fun nested=>resolvePath nested path

def missingSourcePath (d:InputDependency) : BlockError :=
 .new "runtime.missing_source_path" .configuration
  ("source " ++ d.source.node ++ "." ++ d.source.port ++ " is missing nested path " ++
   ".".intercalate d.sourcePath) false

/-- The loop of `readiness_validated`, with its accumulators `missing` and `resolved`. -/
def readinessLoop (signals:Signals) : List InputDependency→List PortRef→Inputs→Readiness
 | [], missing, resolved=>if missing.isEmpty then .ready resolved else .waiting missing
 | d::rest, missing, resolved=>
  match signals.lookup d.source with
  | none=>readinessLoop signals rest (missing++[d.source]) resolved
  | some (.value v)=>
   match resolvePath v d.sourcePath with
   | none=>.blocked d.input d.source (.failed (missingSourcePath d))
   | some nested=>
    let input : ResolvedInput:=
     match d.mode with
     | .value=>.value nested
     | .outcome=>.outcome (.value nested)
    readinessLoop signals rest missing (resolved.insert d.input input)
  | some outcome=>
   match d.mode with
   | .value=>.blocked d.input d.source outcome
   | .outcome=>readinessLoop signals rest missing (resolved.insert d.input (.outcome outcome))

def readiness (signals:Signals) (dependencies:List InputDependency) : Readiness :=
 readinessLoop signals dependencies [] ∅

structure ScheduledCondition where
 input:String
 source:PortRef
 path:List String

structure ScheduledNode where
 nodeId:String
 dependencies:List InputDependency
 condition:Option ScheduledCondition

def conditionHolds (conditionValue:Value) (path:List String) : Bool :=
 let resolved:=path.foldl (fun value part=>value.bind (·.get part)) (some conditionValue)
 resolved.bind Value.asBool==some true

/-- What `evaluate_readiness` computes for one pending node. -/
def nodeReadiness (signals:Signals) (node:ScheduledNode) : Readiness :=
 match node.condition with
 | none=>readiness signals node.dependencies
 | some condition=>
  match signals.lookup condition.source with
  | none=>.waiting [condition.source]
  | some (.value conditionValue)=>
   if conditionHolds conditionValue condition.path then
    match readiness signals node.dependencies with
    | .ready resolved=>.ready (resolved.insert condition.input (.value conditionValue))
    | other=>other
   else .ready (AList.insert condition.input (.value conditionValue) ∅)
  | some (.skipped reason)=>.ready (AList.insert condition.input (.outcome (.skipped reason)) ∅)
  | some outcome=>.blocked condition.input condition.source outcome

inductive NodeExecutionState where
 | pending | ready | running | completed | blocked | cancelled
deriving DecidableEq

inductive SchedulerError where
 | duplicateNode (nodeId:String)
 | unknownNode (nodeId:String)
 | runNotAdmitted
 | nodeNotReady (nodeId:String) (state:NodeExecutionState)
 | nodeNotRunning (nodeId:String) (state:NodeExecutionState)
 | outputOwnerMismatch (nodeId outputNodeId:String)

structure StartedNode where
 nodeId:String
 inputs:Inputs

structure LocalScheduler where
 admitted:Bool
 nodes:FMap String ScheduledNode
 states:FMap String NodeExecutionState
 readyInputs:FMap String Inputs
 signals:Signals

def insertNodes : List ScheduledNode→LocalScheduler→Except SchedulerError LocalScheduler
 | [], s=>.ok s
 | node::rest, s=>
  if (s.nodes.lookup node.nodeId).isSome then .error (.duplicateNode node.nodeId)
  else insertNodes rest
   { s with nodes:=s.nodes.insert node.nodeId node,states:=s.states.insert node.nodeId .pending }

def new (nodes:List ScheduledNode) : Except SchedulerError LocalScheduler :=
 insertNodes nodes ⟨false,∅,∅,∅,∅⟩

def sortedKeys {α:Type} (m:FMap String α) : List String := m.keys.insertionSort (· ≤ ·)

/-- One round of the loop of `evaluate_readiness`. -/
def evaluateNode (acc:List String×LocalScheduler) (nodeId:String) : List String×LocalScheduler :=
 let (newlyReady,s):=acc
 match s.nodes.lookup nodeId with
 | none=>acc
 | some node=>
  if s.states.lookup nodeId≠some .pending then acc
  else match nodeReadiness s.signals node with
   | .ready resolved=>
    (newlyReady++[nodeId],
     { s with
       readyInputs:=s.readyInputs.insert nodeId resolved,states:=s.states.insert nodeId .ready })
   | .waiting _=>acc
   | .blocked _ _ _=>(newlyReady,{ s with states:=s.states.insert nodeId .blocked })

def evaluateReadiness (s:LocalScheduler) : List String×LocalScheduler :=
 (sortedKeys s.nodes).foldl evaluateNode ([],s)

def admitRun (s:LocalScheduler) : List String×LocalScheduler :=
 evaluateReadiness { s with admitted:=true }

def publishSignal (s:LocalScheduler) (port:PortRef) (outcome:Outcome) :
  List String×LocalScheduler :=
 let published:={ s with signals:=s.signals.insert port outcome }
 if published.admitted then evaluateReadiness published else ([],published)

def startNode (s:LocalScheduler) (nodeId:String) :
  Except SchedulerError StartedNode×LocalScheduler :=
 match s.states.lookup nodeId with
 | none=>(.error (.unknownNode nodeId),s)
 | some state=>
  if !s.admitted then (.error .runNotAdmitted,s)
  else if state ≠ .ready then (.error (.nodeNotReady nodeId state),s)
  else
   (.ok ⟨nodeId,(s.readyInputs.lookup nodeId).getD ∅⟩,
    { s with states:=s.states.insert nodeId .running,readyInputs:=s.readyInputs.erase nodeId })

def publishAll (s:LocalScheduler) (outputs:List (PortRef×Outcome)) : LocalScheduler :=
 { s with signals:=outputs.foldl (fun m o=>m.insert o.1 o.2) s.signals }

def completeNode (s:LocalScheduler) (nodeId:String) (outputs:List (PortRef×Outcome)) :
  Except SchedulerError (List String)×LocalScheduler :=
 match s.states.lookup nodeId with
 | none=>(.error (.unknownNode nodeId),s)
 | some state=>
  if state ≠ .running then (.error (.nodeNotRunning nodeId state),s)
  else match outputs.find? fun o=>o.1.node≠nodeId with
   | some o=>(.error (.outputOwnerMismatch nodeId o.1.node),s)
   | none=>
    let published:=publishAll s outputs
    let (newlyReady,t):=evaluateReadiness
     { published with states:=published.states.insert nodeId .completed }
    (.ok newlyReady,t)

def cancelNode (s:LocalScheduler) (nodeId:String) (outputPorts:List PortRef)
  (reason:CancelReason) : Except SchedulerError (List String)×LocalScheduler :=
 match s.states.lookup nodeId with
 | none=>(.error (.unknownNode nodeId),s)
 | some state=>
  if state=.completed∨state=.blocked∨state=.cancelled then (.ok [],s)
  else if !s.admitted then (.error .runNotAdmitted,s)
  else match outputPorts.find? fun port=>port.node≠nodeId with
   | some port=>(.error (.outputOwnerMismatch nodeId port.node),s)
   | none=>
    let published:=publishAll s (outputPorts.map fun port=>(port,.cancelled reason))
    let (newlyReady,t):=evaluateReadiness
     { published with
       readyInputs:=published.readyInputs.erase nodeId
       states:=published.states.insert nodeId .cancelled }
    (.ok newlyReady,t)

end GraphBlocks.Scheduler
