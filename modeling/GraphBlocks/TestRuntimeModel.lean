import GraphBlocks.JournalModel
import GraphBlocks.JsonObjects
import GraphBlocks.SchedulerConfluence

/-! `InProcessTestRuntime::run_with_cancellation_state` of the runtime core as a machine: one step
takes the next ready node, or makes one attempt at the node that is running. -/
namespace GraphBlocks.TestRuntime
open FiniteMap RustStd Json Scheduler Journal

inductive EffectKind where
 | externalWrite | filesystemWrite | destructive | process

inductive PartialOutputPolicy where
 | fail | resumeWithCursor

inductive Backoff where
 | none
 | fixed (delayMs:ℕ)

inductive RetryDecision where
 | retry (delayMs:ℕ)
 | stop (reason:String)

structure RetryPolicy where
 maxAttempts:ℕ
 retryOn:List ErrorCategory
 backoff:Backoff
 partialOutputPolicy:PartialOutputPolicy

inductive RetryPolicyError where
 | zeroMaxAttempts
 | maxAttemptsExceeded (maxAttempts:ℕ)

def maxNodeRetryAttempts : ℕ := 100

def RetryPolicy.validate (policy:RetryPolicy) : Except RetryPolicyError Unit := do
 ensure (policy.maxAttempts != 0) .zeroMaxAttempts
 ensure (decide (policy.maxAttempts≤ maxNodeRetryAttempts))
  (.maxAttemptsExceeded policy.maxAttempts)

structure RetryRequest where
 attempt:ℕ
 error:BlockError
 hasPartialOutput:Bool
 resumeCursor:Option String
 effect:Option EffectKind
 idempotencyKey:Option String
 retryAfterMs:Option ℕ

/-- Text that is not empty and has no blanks around it. -/
def isExact (text:String) : Bool := text != "" && text==trim text

/-- The check of a cursor or key that has to be there: the reason to stop, if any. -/
def exactText (missing invalid:String) : Option String→Except String Unit
 | none=>.error missing
 | some text=>ensure (isExact text) invalid

def checkPartialOutput (policy:RetryPolicy) (request:RetryRequest) : Except String Unit :=
 if request.hasPartialOutput then
  match policy.partialOutputPolicy with
  | .fail=>.error "partial_output_not_retryable"
  | .resumeWithCursor=>
   exactText "missing_resume_cursor" "invalid_resume_cursor" request.resumeCursor
 else .ok ()

def checkEffect (request:RetryRequest) : Except String Unit :=
 if request.effect.isSome then
  exactText "missing_idempotency_key" "invalid_idempotency_key" request.idempotencyKey
 else .ok ()

/-- The reasons to stop, in the order of the source. -/
def retryChecks (policy:RetryPolicy) (request:RetryRequest) : Except String Unit := do
 ensure policy.validate.isOk "max_attempts_exceeded"
 ensure (decide (request.attempt<policy.maxAttempts)) "max_attempts_exhausted"
 ensure (request.error.retryable&&policy.retryOn.contains request.error.category)
  "category_not_retryable"
 checkPartialOutput policy request
 checkEffect request

def Backoff.delayMs : Backoff→ℕ
 | .none=>0
 | .fixed delayMs=>delayMs

def RetryPolicy.decide (policy:RetryPolicy) (request:RetryRequest) : RetryDecision :=
 match retryChecks policy request with
 | .error reason=>.stop reason
 | .ok ()=>.retry (request.retryAfterMs.getD policy.backoff.delayMs)

structure NodeRetryBoundary where
 policy:RetryPolicy
 effect:Option EffectKind
 idempotencyKey:Option String

def NodeRetryBoundary.request (boundary:NodeRetryBoundary) (attempt:ℕ) (error:BlockError) :
  RetryRequest :=
 ⟨attempt,error,false,none,boundary.effect,boundary.idempotencyKey,none⟩

def debugCategory : ErrorCategory→String
 | .validation=>"Validation"
 | .configuration=>"Configuration"
 | .authentication=>"Authentication"
 | .authorization=>"Authorization"
 | .notFound=>"NotFound"
 | .rateLimit=>"RateLimit"
 | .quota=>"Quota"
 | .budget=>"Budget"
 | .capacity=>"Capacity"
 | .timeout=>"Timeout"
 | .transient=>"Transient"
 | .permanent=>"Permanent"
 | .provider=>"Provider"
 | .policy=>"Policy"
 | .cancelled=>"Cancelled"
 | .conflict=>"Conflict"
 | .internal=>"Internal"

def debugCancelCode : CancelCode→String
 | .clientDisconnect=>"ClientDisconnect"
 | .userCancel=>"UserCancel"
 | .timeout=>"Timeout"
 | .superseded=>"Superseded"
 | .policyDenied=>"PolicyDenied"
 | .budgetExhausted=>"BudgetExhausted"
 | .providerQuotaExhausted=>"ProviderQuotaExhausted"
 | .dependencyFailed=>"DependencyFailed"
 | .shutdown=>"Shutdown"
 | .bargeIn=>"BargeIn"
 | .rolloutDrain=>"RolloutDrain"
 | .leaseLost=>"LeaseLost"
 | .entitlementRevoked=>"EntitlementRevoked"

def debugState : NodeExecutionState→String
 | .pending=>"Pending"
 | .ready=>"Ready"
 | .running=>"Running"
 | .completed=>"Completed"
 | .blocked=>"Blocked"
 | .cancelled=>"Cancelled"

/-- `json!` on an object: the members are in the order of their keys. -/
def objectOf (members:List (String×Value)) : Value := .object (sortMembers members)

def optionalText : Option String→Value
 | none=>.null
 | some text=>.string text

def numberOf (n:ℕ) : Value := .number (Nat.toDigits 10 n)

def detailsValue (details:FMap String Value) : Value :=
 .object ((sortedKeys details).filterMap fun key=>(details.lookup key).map fun v=>(key,v))

def cancelPayload (reason:CancelReason) : Value :=
 objectOf [("code",.string (debugCancelCode reason.code)),
  ("message",optionalText reason.message),("requestedBy",optionalText reason.requestedBy),
  ("policyDecisionRef",optionalText reason.policyDecisionRef)]

def skippedPayload (reason:SkipReason) : Value :=
 objectOf [("skipped",.bool true),("reason",.string reason.code),
  ("message",optionalText reason.message)]

def errorMembers (error:BlockError) : List (String×Value) :=
 [("code",.string error.code),("category",.string (debugCategory error.category)),
  ("message",.string error.message)]

def reasonPayload (code:String) (message:Option String) : Value :=
 objectOf [("code",.string code),("message",optionalText message)]

def absentPayload : Value :=
 objectOf [("code",.string "runtime.invalid_absent_node_outcome"),("category",.string "Internal"),
  ("message",.string "node execution returned absent as a run-level outcome")]

def skippedOutcomePayload (reason:SkipReason) : Value :=
 objectOf [("code",.string "runtime.invalid_skipped_node_outcome"),("category",.string "Internal"),
  ("message",.string "node execution returned skipped as a run-level outcome"),
  ("skipCode",.string reason.code),("skipMessage",optionalText reason.message)]

/-- `Outcome<Vec<(PortRef, Outcome<Value>)>>`. -/
inductive ExecutionOutcome where
 | value (outputs:List (PortRef×Outcome))
 | absent
 | skipped (reason:SkipReason)
 | denied (decision:PolicyDecisionRef)
 | budgetExhausted (exhaustion:BudgetExhaustion)
 | paused (reason:PauseReason)
 | failed (error:BlockError)
 | cancelled (reason:CancelReason)

inductive NodeExecutionPreflight where
 | skipped (reason:SkipReason) (outputs:List (PortRef×Outcome))
 | failed (error:BlockError)

/-- The executor, a function of the node with its inputs and of the attempt. -/
structure OutcomeNodeExecutor where
 preflight:StartedNode→Option NodeExecutionPreflight
 execute:StartedNode→ℕ→ExecutionOutcome

inductive OutcomeRunStatus where
 | succeeded | failed | cancelled | rejected | paused | exhausted

def OutcomeRunStatus.terminalKind : OutcomeRunStatus→String
 | .succeeded=>"run_succeeded"
 | .failed=>"run_failed"
 | .cancelled=>"run_cancelled"
 | .rejected=>"run_rejected"
 | .paused=>"run_paused"
 | .exhausted=>"run_exhausted"

inductive TestRuntimeError where
 | scheduler (error:SchedulerError)
 | journal (error:JournalError)

/-- The settings of the runtime; a timeout policy is its duration. -/
structure Settings where
 retryBoundaries:FMap String NodeRetryBoundary
 timeoutPolicies:FMap String ℕ
 nodeDurationsMs:FMap String ℕ
 nodeAttemptDurationsMs:FMap String (List ℕ)

/-- What the runtime reads from outside: the `n`-th answer of the cancellation token, if the run
has one, of the token of the `n`-th attempt, and the measured duration of that attempt. -/
structure Environment where
 token:Option (ℕ→Option CancelReason)
 attemptReason:ℕ→Option CancelReason
 measuredMs:ℕ→ℕ

/-- Where the run stands: at the head of the outer loop, at an attempt, or returned. -/
inductive Control where
 | next
 | attempt (node:StartedNode) (attempt:ℕ)
 | finished (result:Except TestRuntimeError OutcomeRunStatus)

structure RunState where
 scheduler:LocalScheduler
 journal:ExecutionJournal
 virtualNowMs:ℕ
 ready:List String
 control:Control
 reads:ℕ
 attempts:ℕ

def saturatingAdd (a b:ℕ) : ℕ := min (a+b) (u64Limit-1)

namespace RunState

variable (s:RunState)

def finish (result:Except TestRuntimeError OutcomeRunStatus) : RunState :=
 { s with control:=.finished result }

/-- `append_with_metadata(..)?` and what follows it. -/
def record (kind:String) (metadata:JournalMetadata) (payload:Option Value)
  (andThen:RunState→RunState) : RunState :=
 match s.journal.appendWithMetadata kind metadata payload with
 | (.error e,journal)=>{ s with journal:=journal }.finish (.error (.journal e))
 | (.ok _,journal)=>andThen { s with journal:=journal }

def conclude (status:OutcomeRunStatus) (metadata:JournalMetadata) (payload:Option Value) :
  RunState :=
 match s.journal.appendTerminalWithMetadata status.terminalKind metadata payload with
 | (.error e,journal)=>{ s with journal:=journal }.finish (.error (.journal e))
 | (.ok _,journal)=>{ s with journal:=journal }.finish (.ok status)

def failRun (metadata:JournalMetadata) (payload:Value) : RunState :=
 s.record "node_failed" metadata (some payload) fun t=>t.conclude .failed metadata (some payload)

/-- `complete_node(..)?`, its record, and back to the queue. -/
def complete (nodeId:String) (outputs:List (PortRef×Outcome)) (metadata:JournalMetadata)
  (payload:Option Value) : RunState :=
 match completeNode s.scheduler nodeId outputs with
 | (.error e,scheduler)=>{ s with scheduler:=scheduler }.finish (.error (.scheduler e))
 | (.ok newlyReady,scheduler)=>
  { s with scheduler:=scheduler }.record "node_completed" metadata payload fun t=>
   { t with ready:=t.ready++newlyReady,control:=.next }

end RunState

def nodeMetadata (nodeId:String) : JournalMetadata :=
 { JournalMetadata.new with nodeId:=some nodeId }

def attemptId (attempt:ℕ) : String := "attempt-" ++ toString attempt

def attemptMetadata (nodeId:String) (attempt:ℕ) : JournalMetadata :=
 { nodeMetadata nodeId with attemptId:=some (attemptId attempt) }

section
variable (settings:Settings) (environment:Environment) (executor:OutcomeNodeExecutor)

def readToken (s:RunState) : Option CancelReason×RunState :=
 match environment.token with
 | none=>(none,s)
 | some reason=>(reason s.reads,{ s with reads:=s.reads+1 })

/-- The end of the outer loop. -/
def closeRun (s:RunState) : RunState :=
 let unfinished:=(sortedKeys s.scheduler.states).filterMap fun nodeId=>
  match s.scheduler.states.lookup nodeId with
  | none=>none
  | some .completed=>none
  | some state=>some (nodeId,state)
 if unfinished=[] then s.conclude .succeeded .new none
 else s.conclude .failed .new (some (objectOf [("unfinished",.array (unfinished.map fun entry=>
  objectOf [("node",.string entry.1),("state",.string (debugState entry.2))]))]))

/-- The node is started; the executor may decide about it before the first attempt. -/
def beginNode (s:RunState) (started:StartedNode) : RunState :=
 match executor.preflight started with
 | some (.skipped reason outputs)=>
  s.complete started.nodeId outputs (nodeMetadata started.nodeId) (some (skippedPayload reason))
 | some (.failed error)=>s.failRun (nodeMetadata started.nodeId) (objectOf (errorMembers error))
 | none=>{ s with control:=.attempt started 1 }

/-- One round of the outer loop. -/
def nextNode (s:RunState) : RunState :=
 match s.ready with
 | []=>closeRun s
 | nodeId::rest=>
  match readToken environment { s with ready:=rest } with
  | (some reason,t)=>t.conclude .cancelled .new (some (cancelPayload reason))
  | (none,t)=>
   match startNode t.scheduler nodeId with
   | (.error e,scheduler)=>{ t with scheduler:=scheduler }.finish (.error (.scheduler e))
   | (.ok started,scheduler)=>beginNode executor { t with scheduler:=scheduler } started

def startedPayload (nodeId:String) (attempt:ℕ) : Option Value :=
 (settings.retryBoundaries.lookup nodeId).bind fun boundary=>
  boundary.idempotencyKey.map fun key=>
   objectOf [("attempt",numberOf attempt),("idempotencyKey",.string key)]

def keyMembers (boundary:NodeRetryBoundary) : List (String×Value) :=
 match boundary.idempotencyKey with
 | none=>[]
 | some key=>[("idempotencyKey",.string key)]

def failAttempt (s:RunState) (node:StartedNode) (attempt:ℕ) (error:BlockError)
  (members:List (String×Value)) : RunState :=
 let metadata:=attemptMetadata node.nodeId attempt
 match settings.retryBoundaries.lookup node.nodeId with
 | none=>s.failRun metadata (objectOf members)
 | some boundary=>
  match boundary.policy.decide (boundary.request attempt error) with
  | .stop reason=>s.failRun metadata (objectOf (members++[("retryStopReason",.string reason)]))
  | .retry delayMs=>
   s.record "node_retry" metadata
    (some (objectOf ([("attempt",numberOf attempt)]++members ++
     [("delayMs",numberOf delayMs)]++keyMembers boundary)))
    fun t=>{ t with control:=.attempt node (attempt+1) }

def skippedReason (outputs:List (PortRef×Outcome)) : Option SkipReason :=
 if !outputs.isEmpty&&outputs.all fun o=>match o.2 with | .skipped _=>true | _=>false then
  outputs.findSome? fun o=>match o.2 with | .skipped reason=>some reason | _=>none
 else none

/-- What follows an attempt that did not run out of time. -/
def finishAttempt (s:RunState) (node:StartedNode) (attempt:ℕ) : ExecutionOutcome→RunState
 | .value outputs=>
  s.complete node.nodeId outputs (attemptMetadata node.nodeId attempt)
   ((skippedReason outputs).map skippedPayload)
 | .cancelled reason=>
  s.conclude .cancelled (attemptMetadata node.nodeId attempt) (some (cancelPayload reason))
 | .denied decision=>
  s.conclude .rejected (attemptMetadata node.nodeId attempt)
   (some (objectOf [("decisionId",.string decision.decisionId)]))
 | .paused reason=>
  s.conclude .paused (attemptMetadata node.nodeId attempt)
   (some (reasonPayload reason.code reason.message))
 | .budgetExhausted exhaustion=>
  s.conclude .exhausted (attemptMetadata node.nodeId attempt)
   (some (reasonPayload exhaustion.code exhaustion.message))
 | .absent=>s.failRun (attemptMetadata node.nodeId attempt) absentPayload
 | .skipped reason=>s.failRun (attemptMetadata node.nodeId attempt) (skippedOutcomePayload reason)
 | .failed error=>failAttempt settings s node attempt error (errorMembers error)

def durationMs (nodeId:String) (attempt measured:ℕ) : ℕ :=
 match (settings.nodeAttemptDurationsMs.lookup nodeId).bind fun ds=>ds[attempt-1]? with
 | some duration=>duration
 | none=>(settings.nodeDurationsMs.lookup nodeId).getD measured

def timeoutError (nodeId:String) (deadlineMs nowMs:ℕ) : BlockError :=
 { BlockError.new "runtime.timeout" .timeout
    ("node " ++ nodeId ++ " exceeded timeout deadline") true with
   details:=AList.insert "now_ms" (numberOf nowMs)
    (AList.insert "deadline_ms" (numberOf deadlineMs) ∅) }

/-- The deadline of an attempt that began at a time, and the time at which it is found to have
passed. -/
def expiredAt (nodeId:String) (startedAtMs nowMs:ℕ) (reason:Option CancelReason) : Option (ℕ×ℕ) :=
 (settings.timeoutPolicies.lookup nodeId).bind fun timeoutMs=>
  let deadlineMs:=saturatingAdd startedAtMs timeoutMs
  if reason.any fun r=>r.code == .timeout then some (deadlineMs,deadlineMs)
  else if deadlineMs≤nowMs then some (deadlineMs,nowMs)
  else none

/-- The attempt is over and was not cancelled: the clock moves on and the deadline is checked. -/
def settleAttempt (s:RunState) (node:StartedNode) (attempt:ℕ) (reason:Option CancelReason)
  (outcome:ExecutionOutcome) : RunState :=
 let nowMs:=saturatingAdd s.virtualNowMs
  (durationMs settings node.nodeId attempt (environment.measuredMs s.attempts))
 let t:={ s with virtualNowMs:=nowMs,attempts:=s.attempts+1 }
 match expiredAt settings node.nodeId s.virtualNowMs nowMs reason with
 | some (deadlineMs,checkedMs)=>
  let error:=timeoutError node.nodeId deadlineMs checkedMs
  failAttempt settings t node attempt error
   (errorMembers error++[("details",detailsValue error.details)])
 | none=>finishAttempt settings t node attempt outcome

/-- One round of the attempt loop. -/
def makeAttempt (s:RunState) (node:StartedNode) (attempt:ℕ) : RunState :=
 s.record "node_started" (attemptMetadata node.nodeId attempt)
  (startedPayload settings node.nodeId attempt) fun t=>
   match readToken environment t with
   | (some reason,u)=>
    u.conclude .cancelled (attemptMetadata node.nodeId attempt) (some (cancelPayload reason))
   | (none,u)=>
    match environment.attemptReason u.attempts with
    | none=>settleAttempt settings environment u node attempt none
      (executor.execute node attempt)
    | some reason=>
     if reason.code=.timeout then
      settleAttempt settings environment u node attempt (some reason)
       (executor.execute node attempt)
     else
      u.conclude .cancelled (attemptMetadata node.nodeId attempt)
       (some (cancelPayload reason))

def step (s:RunState) : RunState :=
 match s.control with
 | .next=>nextNode environment executor s
 | .attempt node attempt=>makeAttempt settings environment executor s node attempt
 | .finished _=>s

/-- The part of a run before the outer loop. -/
def startRun (scheduler:LocalScheduler) (journal:ExecutionJournal) : RunState :=
 let s : RunState:=⟨scheduler,journal,0,[],.next,0,0⟩
 s.record "run_started" .new none fun t=>
  match readToken environment t with
  | (some reason,u)=>u.conclude .cancelled .new (some (cancelPayload reason))
  | (none,u)=>
   { u with ready:=(admitRun u.scheduler).1,scheduler:=(admitRun u.scheduler).2 }

def stateAt (scheduler:LocalScheduler) (journal:ExecutionJournal) (n:ℕ) : RunState :=
 (step settings environment executor)^[n] (startRun environment scheduler journal)
end

/-- `with_initial_value`, one after the other, on a runtime that is not admitted yet. -/
def withInitialValues (scheduler:LocalScheduler) (values:List (PortRef×Value)) : LocalScheduler :=
 values.foldl (fun s entry=>(publishSignal s entry.1 (.value entry.2)).2) scheduler

end GraphBlocks.TestRuntime
