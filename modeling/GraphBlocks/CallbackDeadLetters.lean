import GraphBlocks.CallbackQueueSteps

/-! What `CallbackDeliveryScheduler` makes of the response to a delivery, the dead letters of
deliveries that it gives up, and `SqliteCallbackDeadLetterStore`, which stores them as JSON by the
id of their delivery and redrives them. -/
namespace GraphBlocks.CallbackDeliveries
open Std Json RustStd StoredJson CanonicalJson ApplicationProtocol MachineRuns
open SqliteApplicationProtocolLog (asU64_intToken asObject_toObject)
open SqliteCallbackDeliveryQueue

structure CallbackRetryPolicy where
 maxAttempts:ℕ
 baseDelayMs:ℕ
 maxDelayMs:ℕ

inductive CallbackDeliveryResponse where
 | success
 | duplicateAlreadyProcessed
 | targetGone
 | rateLimited (retryAfterMs:Option ℕ)
 | serverError (status:ℕ)
 | clientError (status:ℕ)

def u64Max : ℕ := u64Limit-1

namespace CallbackRetryPolicy

def new (maxAttempts baseDelayMs maxDelayMs:ℕ) : CallbackRetryPolicy :=
 ⟨max maxAttempts 1,max baseDelayMs 1,max maxDelayMs (max baseDelayMs 1)⟩

variable (policy:CallbackRetryPolicy)

def delayForAttempt (attempt:ℕ) : ℕ :=
 min (min (policy.baseDelayMs*2^min (attempt-1) 32) u64Max) policy.maxDelayMs

def leBytes (n:ℕ) : List UInt8 :=
 [UInt8.ofNat n,UInt8.ofNat (n/256),UInt8.ofNat (n/65536),UInt8.ofNat (n/16777216)]

def jitterHash (bytes:List UInt8) : UInt64 :=
 bytes.foldl (fun hash byte=>(hash ^^^ byte.toUInt64)*1099511628211) 14695981039346656037

def delayForAttemptWithJitter (attempt:ℕ) (jitterKey:String) : ℕ :=
 let base:=policy.delayForAttempt attempt
 let remaining:=policy.maxDelayMs-base
 if remaining=0 then base
 else
  let window:=max (min remaining base) 1
  let jitter:=(jitterHash (jitterKey.toUTF8.toList++leBytes attempt)).toNat % window+1
  min (min (base+jitter) u64Max) policy.maxDelayMs

end CallbackRetryPolicy

/-- `n.checked_add(1)` on `u32`. -/
def checkedSucc32 (n:ℕ) : Option ℕ := if n+1<u32Limit then some (n+1) else none

def finishedWith (delivery:CallbackDelivery) (status:CallbackDeliveryStatus) (error:String) :
  CallbackDelivery :=
 { delivery with status:=status,nextRetryAtUnixMs:=none,lastError:=some error }

def retryOrFinish (policy:CallbackRetryPolicy) (delivery:CallbackDelivery) (now:ℕ)
  (retryAfterMs:Option ℕ) (error:String) : CallbackDelivery :=
 if delivery.failurePolicy=.bestEffort then finishedWith delivery .failed error
 else if policy.maxAttempts≤delivery.attempt then finishedWith delivery .deadLettered error
 else
  match checkedSucc32 delivery.attempt with
  | none=>finishedWith delivery .deadLettered (error ++ "; retry attempt overflow")
  | some nextAttempt=>
   let delay:=match retryAfterMs with
    | some retryAfter=>min (max retryAfter 1) policy.maxDelayMs
    | none=>policy.delayForAttemptWithJitter (nextAttempt-1) delivery.idempotencyKey
   match checkedAdd now delay with
   | none=>finishedWith delivery .deadLettered (error ++ "; retry schedule timestamp overflow")
   | some nextRetry=>
    { delivery with
      attempt:=nextAttempt,status:=.pending,nextRetryAtUnixMs:=some nextRetry
      lastError:=some error }

def recordResponse (policy:CallbackRetryPolicy) (delivery:CallbackDelivery)
  (response:CallbackDeliveryResponse) (now:ℕ) : CallbackDelivery :=
 if callbackDeliveryStatusIsTerminal delivery.status then delivery
 else
  match response with
  | .success=>
   { delivery with
     status:=.delivered,deliveredAtUnixMs:=some now,nextRetryAtUnixMs:=none,lastError:=none }
  | .duplicateAlreadyProcessed=>
   { delivery with
     status:=.acknowledged,acknowledgedAtUnixMs:=some now,nextRetryAtUnixMs:=none,lastError:=none }
  | .targetGone=>finishedWith delivery .cancelled "target_gone"
  | .rateLimited retryAfterMs=>retryOrFinish policy delivery now retryAfterMs "rate_limited"
  | .serverError status=>retryOrFinish policy delivery now none ("server_error:" ++ toString status)
  | .clientError status=>finishedWith delivery .failed ("client_error:" ++ toString status)

structure CallbackDeadLetter where
 originalDeliveryId:String
 subscriptionId:String
 eventId:String
 runId:String
 sequence:ℕ
 cursor:String
 idempotencyKey:String
 failurePolicy:CallbackFailurePolicy
 attemptHistory:List ℕ
 lastError:Option String
 deadLetteredAtUnixMs:ℕ
 redriveCount:ℕ

def CallbackDeadLetter.fromDelivery (delivery:CallbackDelivery) (deadLetteredAt:ℕ) :
  Outcome CallbackDeadLetter := do
 ensure (delivery.status == .deadLettered)
  (.invalidDeliveryStatus delivery.deliveryId delivery.status)
 validateCallbackDelivery delivery
 ensure (deadLetteredAt != 0) (.emptyField "dead_lettered_at_unix_ms")
 .ok
  { originalDeliveryId:=delivery.deliveryId,subscriptionId:=delivery.subscriptionId
    eventId:=delivery.eventId,runId:=delivery.runId,sequence:=delivery.sequence
    cursor:=delivery.cursor,idempotencyKey:=delivery.idempotencyKey
    failurePolicy:=delivery.failurePolicy,attemptHistory:=List.range' 1 delivery.attempt
    lastError:=delivery.lastError,deadLetteredAtUnixMs:=deadLetteredAt
    redriveCount:=delivery.redriveCount }

/-- Every attempt is its index plus one. -/
def consecutiveFromOne (history:List ℕ) : Bool := history.zipIdx.all fun entry=>entry.1==entry.2+1

def validateCallbackDeadLetter (letter:CallbackDeadLetter) : Outcome Unit := do
 refuseBlank "callback_dead_letter" [("original_delivery_id",letter.originalDeliveryId),
  ("subscription_id",letter.subscriptionId),("event_id",letter.eventId),
  ("run_id",letter.runId),("cursor",letter.cursor),
  ("idempotency_key",letter.idempotencyKey)]
 ensure (!letter.attemptHistory.isEmpty)
  (.storage "callback dead letter has empty attempt history")
 ensure (consecutiveFromOne letter.attemptHistory)
  (.storage "callback dead letter attempt history must be consecutive from 1")
 ensure (!missingText letter.lastError) (.storage "callback dead letter has no error reason")
 ensure (letter.deadLetteredAtUnixMs != 0) (.emptyField "dead_lettered_at_unix_ms")

def deadLetterMembers (letter:CallbackDeadLetter) : List (String×Value) :=
 [("original_delivery_id",.string letter.originalDeliveryId),
  ("subscription_id",.string letter.subscriptionId),
  ("event_id",.string letter.eventId),
  ("run_id",.string letter.runId),
  ("sequence",u64Value letter.sequence),
  ("cursor",.string letter.cursor),
  ("idempotency_key",.string letter.idempotencyKey),
  ("failure_policy",.string (callbackFailurePolicyAsStr letter.failurePolicy)),
  ("attempt_history",.array (letter.attemptHistory.map u64Value)),
  ("last_error",textOrNull letter.lastError),
  ("dead_lettered_at_unix_ms",u64Value letter.deadLetteredAtUnixMs),
  ("redrive_count",u64Value letter.redriveCount)]

def deadLetterToValue (letter:CallbackDeadLetter) : Value :=
 toObject (ExtTreeMap.ofList (deadLetterMembers letter))

def asArray : Value→Option (List Value)
 | .array items=>some items
 | _=>none

def attemptFromValue (value:Value) : Outcome ℕ :=
 okOr ((asU64 value).filter (· < u32Limit))
  (.storage "stored callback dead letter has invalid attempt")

def readDeadLetter (value:Value) : Outcome CallbackDeadLetter := do
 let items ← okOr ((storedMember value "attempt_history").bind asArray)
  (.storage "stored callback dead letter has invalid attempt_history")
 let attemptHistory ← collect attemptFromValue items
 let originalDeliveryId ← callbackRequiredString value "original_delivery_id"
 let subscriptionId ← callbackRequiredString value "subscription_id"
 let eventId ← callbackRequiredString value "event_id"
 let runId ← callbackRequiredString value "run_id"
 let sequence ← callbackRequiredU64 value "sequence"
 let cursor ← callbackRequiredString value "cursor"
 let idempotencyKey ← callbackRequiredString value "idempotency_key"
 let failurePolicyText ← callbackRequiredString value "failure_policy"
 let failurePolicy ← callbackFailurePolicyFromStr failurePolicyText
 let lastError ← callbackOptionalString value "last_error"
 let deadLetteredAtUnixMs ← callbackRequiredU64 value "dead_lettered_at_unix_ms"
 let redriveCount ← callbackRequiredU64 value "redrive_count"
 ensure (decide (redriveCount<u32Limit))
  (.storage "stored callback dead letter has oversized redrive_count")
 .ok ⟨originalDeliveryId,subscriptionId,eventId,runId,sequence,cursor,idempotencyKey,
  failurePolicy,attemptHistory,lastError,deadLetteredAtUnixMs,redriveCount⟩

def deadLetterFromValue (value:Value) : Outcome CallbackDeadLetter := do
 let letter ← readDeadLetter value
 validateCallbackDeadLetter letter
 .ok letter

def callbackDeadLetterImmutableConflict (existing incoming:CallbackDeadLetter) : Option String :=
 ([("original_delivery_id",existing.originalDeliveryId==incoming.originalDeliveryId),
  ("subscription_id",existing.subscriptionId==incoming.subscriptionId),
  ("event_id",existing.eventId==incoming.eventId),
  ("run_id",existing.runId==incoming.runId),
  ("sequence",existing.sequence==incoming.sequence),
  ("cursor",existing.cursor==incoming.cursor),
  ("idempotency_key",existing.idempotencyKey==incoming.idempotencyKey),
  ("failure_policy",existing.failurePolicy==incoming.failurePolicy),
  ("last_error",existing.lastError==incoming.lastError),
  ("dead_lettered_at_unix_ms",existing.deadLetteredAtUnixMs==incoming.deadLetteredAtUnixMs)].find?
  fun field => !field.2).map Prod.fst

/-- The column `dead_letter_json` by `original_delivery_id`. -/
abbrev SqliteCallbackDeadLetterStore := StringMap String

def redriveDelivery (letter:CallbackDeadLetter) (operator reason:String) (redrivenAt:ℕ) :
  Outcome CallbackDelivery := do
 ensure (!isBlank operator) (.emptyField "operator")
 ensure (!isBlank reason) (.emptyField "reason")
 ensure (redrivenAt != 0) (.emptyField "redriven_at_unix_ms")
 ensure (!decide (redrivenAt<letter.deadLetteredAtUnixMs))
  (.storage "redrive timestamp precedes dead-letter timestamp")
 let attempt ← okOr (checkedSucc32 (letter.attemptHistory.getLast?.getD 0))
  (.storage "callback delivery attempt overflow during dead-letter redrive")
 let redriveCount ← okOr (checkedSucc32 letter.redriveCount)
  (.storage "callback delivery redrive count overflow")
 .ok
  { deliveryId:=letter.originalDeliveryId,subscriptionId:=letter.subscriptionId
    eventId:=letter.eventId,runId:=letter.runId,sequence:=letter.sequence,cursor:=letter.cursor
    attempt,idempotencyKey:=letter.idempotencyKey,failurePolicy:=letter.failurePolicy
    status:=.pending,nextRetryAtUnixMs:=none,deliveredAtUnixMs:=none,acknowledgedAtUnixMs:=none
    lastError:=letter.lastError,redriveCount,lastRedriveOperator:=some operator
    lastRedriveReason:=some reason }

namespace SqliteCallbackDeadLetterStore

variable {d:StringDisplay} (reader:JsonReader d) (store:SqliteCallbackDeadLetterStore)

/-- `dead_letter_from_value(callback_parse_json(text)?)`. -/
def deadLetterFromText (text:String) : Outcome CallbackDeadLetter := do
 let value ← fromStr queueErrors reader text
 deadLetterFromValue value

def write (d:StringDisplay) (letter:CallbackDeadLetter) : SqliteCallbackDeadLetterStore :=
 store.insert letter.originalDeliveryId (toText d (deadLetterToValue letter))

/-- The checks of a dead letter against the one that is stored. -/
def replaceable (existing letter:CallbackDeadLetter) : Outcome Unit := do
 refuse ((callbackDeadLetterImmutableConflict existing letter).map fun field=>
  .storage ("callback dead letter immutable metadata conflict: " ++ field))
 ensure (!(decide (letter.redriveCount<existing.redriveCount) ||
   decide (letter.attemptHistory.length<existing.attemptHistory.length)))
  (.storage "callback dead letter redrive history regression")

def insertDeadLetter (letter:CallbackDeadLetter) : Outcome SqliteCallbackDeadLetterStore := do
 validateCallbackDeadLetter letter
 match store[letter.originalDeliveryId]? with
 | some text=>
  let existing ← deadLetterFromText reader text
  replaceable existing letter
  .ok (store.write d letter)
 | none=>.ok (store.write d letter)

def getDeadLetter (originalDeliveryId:String) : Outcome (Option CallbackDeadLetter) :=
 match store[originalDeliveryId]? with
 | none=>.ok none
 | some text=>do
  let letter ← deadLetterFromText reader text
  ensure (letter.originalDeliveryId==originalDeliveryId)
   (.storage "stored callback dead letter identity does not match row key")
  .ok (some letter)

def redriveDeadLetter (originalDeliveryId operator reason:String) (redrivenAt:ℕ) :
  Outcome (CallbackDelivery×SqliteCallbackDeadLetterStore) := do
 let text ← okOr store[originalDeliveryId]? (.deadLetterNotFound originalDeliveryId)
 let letter ← deadLetterFromText reader text
 ensure (letter.originalDeliveryId==originalDeliveryId)
  (.storage "stored callback dead letter identity does not match row key")
 let redriven ← redriveDelivery letter operator reason redrivenAt
 let redrivenLetter : CallbackDeadLetter:=
  { letter with
    redriveCount:=redriven.redriveCount,attemptHistory:=letter.attemptHistory++[redriven.attempt] }
 validateCallbackDeadLetter redrivenLetter
 .ok (redriven,store.insert originalDeliveryId (toText d (deadLetterToValue redrivenLetter)))

end SqliteCallbackDeadLetterStore

end GraphBlocks.CallbackDeliveries
