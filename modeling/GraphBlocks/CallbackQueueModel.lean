import GraphBlocks.ApplicationProtocolStorage
import GraphBlocks.CallbackScheduling

/-! `SqliteCallbackDeliveryQueue` of the runtime core: one row for each delivery, with the
delivery as JSON beside the columns that the queries use and the columns of its claim. -/
namespace GraphBlocks.CallbackDeliveries
open Std Json RustStd StoredJson CanonicalJson ApplicationProtocol Usage

inductive CallbackDeliveryError where
 | emptyField (field:String)
 | invalidDeliveryStatus (deliveryId:String) (status:CallbackDeliveryStatus)
 | deadLetterNotFound (originalDeliveryId:String)
 | storage (message:String)
deriving DecidableEq

abbrev Outcome (α:Type) := Except CallbackDeliveryError α

def callbackDeliveryStatusAsStr : CallbackDeliveryStatus→String
 | .pending=>"pending"
 | .delivering=>"delivering"
 | .delivered=>"delivered"
 | .acknowledged=>"acknowledged"
 | .failed=>"failed"
 | .deadLettered=>"dead_lettered"
 | .cancelled=>"cancelled"
 | .expired=>"expired"

def callbackDeliveryStatusFromStr : String→Outcome CallbackDeliveryStatus
 | "pending"=>.ok .pending
 | "delivering"=>.ok .delivering
 | "delivered"=>.ok .delivered
 | "acknowledged"=>.ok .acknowledged
 | "failed"=>.ok .failed
 | "dead_lettered"=>.ok .deadLettered
 | "cancelled"=>.ok .cancelled
 | "expired"=>.ok .expired
 | status=>.error (.storage ("unknown callback delivery status " ++ status))

def callbackFailurePolicyAsStr : CallbackFailurePolicy→String
 | .bestEffort=>"best_effort"
 | .retryThenDeadLetter=>"retry_then_dead_letter"
 | .pauseRunOnFailure=>"pause_run_on_failure"
 | .failRunOnFailure=>"fail_run_on_failure"

def callbackFailurePolicyFromStr : String→Outcome CallbackFailurePolicy
 | "best_effort"=>.ok .bestEffort
 | "retry_then_dead_letter"=>.ok .retryThenDeadLetter
 | "pause_run_on_failure"=>.ok .pauseRunOnFailure
 | "fail_run_on_failure"=>.ok .failRunOnFailure
 | failurePolicy=>.error (.storage ("unknown callback failure policy " ++ failurePolicy))

def callbackDeliveryStatusIsTerminal : CallbackDeliveryStatus→Bool
 | .delivered | .acknowledged | .failed | .deadLettered | .cancelled | .expired=>true
 | .pending | .delivering=>false

def u32Limit : ℕ := 2^32

/-- The integers of a delivery are the machine integers of the source. -/
structure CallbackDelivery.Sized (delivery:CallbackDelivery) : Prop where
 sequence:delivery.sequence<u64Limit
 attempt:delivery.attempt<u32Limit
 nextRetry:∀t∈delivery.nextRetryAtUnixMs,t<u64Limit
 deliveredAt:∀t∈delivery.deliveredAtUnixMs,t<u64Limit
 acknowledgedAt:∀t∈delivery.acknowledgedAtUnixMs,t<u64Limit
 redriveCount:delivery.redriveCount<u32Limit

def refuseBlank (owner:String) : List (String×String)→Outcome Unit
 | []=>.ok ()
 | (field,value)::rest=>do
  ensure (!isBlank value) (.emptyField (owner ++ "." ++ field))
  refuseBlank owner rest

/-- `is_none_or(|text| text.trim().is_empty())`. -/
def missingText (text:Option String) : Bool := text.all isBlank

def redriveAuditMissing (delivery:CallbackDelivery) : Bool :=
 missingText delivery.lastRedriveOperator||missingText delivery.lastRedriveReason

def needsErrorReason : CallbackDeliveryStatus→Bool
 | .failed | .deadLettered | .cancelled | .expired=>true
 | _=>false

def validateCallbackDelivery (delivery:CallbackDelivery) : Outcome Unit := do
 refuseBlank "callback_delivery" [("delivery_id",delivery.deliveryId),
  ("subscription_id",delivery.subscriptionId),("event_id",delivery.eventId),
  ("run_id",delivery.runId),("cursor",delivery.cursor),
  ("idempotency_key",delivery.idempotencyKey)]
 ensure (delivery.attempt != 0) (.storage "callback delivery attempt must be positive")
 ensure (!(callbackDeliveryStatusIsTerminal delivery.status&&delivery.nextRetryAtUnixMs.isSome))
  (.storage (callbackDeliveryStatusAsStr delivery.status ++ " delivery has retry timestamp"))
 ensure (delivery.nextRetryAtUnixMs != some 0)
  (.storage (callbackDeliveryStatusAsStr delivery.status ++
   " delivery has zero retry timestamp"))
 ensure (!(delivery.status.blocksOrderedDelivery&&delivery.deliveredAtUnixMs.isSome))
  (.storage (callbackDeliveryStatusAsStr delivery.status ++
   " delivery has delivered timestamp"))
 ensure (!(delivery.status.blocksOrderedDelivery&&delivery.acknowledgedAtUnixMs.isSome))
  (.storage (callbackDeliveryStatusAsStr delivery.status ++
   " delivery has acknowledged timestamp"))
 ensure (!(delivery.status == .delivered&&delivery.deliveredAtUnixMs.isNone))
  (.storage "delivered delivery has no delivered timestamp")
 ensure (!(delivery.status == .delivered&&delivery.deliveredAtUnixMs==some 0))
  (.storage "delivered delivery has zero delivered timestamp")
 ensure (!(delivery.status == .acknowledged&&delivery.acknowledgedAtUnixMs.isNone))
  (.storage "acknowledged delivery has no acknowledged timestamp")
 ensure (!(delivery.status == .acknowledged&&delivery.acknowledgedAtUnixMs==some 0))
  (.storage "acknowledged delivery has zero acknowledged timestamp")
 ensure (!(delivery.deliveredAtUnixMs.any fun deliveredAt=>
   delivery.acknowledgedAtUnixMs.any fun acknowledgedAt=>decide (acknowledgedAt<deliveredAt)))
  (.storage "acknowledged delivery precedes delivered timestamp")
 ensure (!(decide (0<delivery.redriveCount)&&redriveAuditMissing delivery))
  (.storage "redriven callback delivery has invalid audit fields")
 ensure (!(delivery.redriveCount==0 &&
   (delivery.lastRedriveOperator.isSome||delivery.lastRedriveReason.isSome)))
  (.storage "non-redriven callback delivery has redrive audit fields")
 ensure (!(needsErrorReason delivery.status&&missingText delivery.lastError))
  (.storage "terminal callback delivery has no error reason")

def u64Value (n:ℕ) : Value := .number (intToken n)

def u64OrNull : Option ℕ→Value
 | none=>.null
 | some n=>u64Value n

def deliveryMembers (delivery:CallbackDelivery) : List (String×Value) :=
 [("delivery_id",.string delivery.deliveryId),("subscription_id",.string delivery.subscriptionId),
  ("event_id",.string delivery.eventId),
  ("run_id",.string delivery.runId),
  ("sequence",u64Value delivery.sequence),
  ("cursor",.string delivery.cursor),
  ("attempt",u64Value delivery.attempt),
  ("idempotency_key",.string delivery.idempotencyKey),
  ("failure_policy",.string (callbackFailurePolicyAsStr delivery.failurePolicy)),
  ("status",.string (callbackDeliveryStatusAsStr delivery.status)),
  ("next_retry_at_unix_ms",u64OrNull delivery.nextRetryAtUnixMs),
  ("delivered_at_unix_ms",u64OrNull delivery.deliveredAtUnixMs),
  ("acknowledged_at_unix_ms",u64OrNull delivery.acknowledgedAtUnixMs),
  ("last_error",textOrNull delivery.lastError),
  ("redrive_count",u64Value delivery.redriveCount),
  ("last_redrive_operator",textOrNull delivery.lastRedriveOperator),
  ("last_redrive_reason",textOrNull delivery.lastRedriveReason)]

def deliveryToValue (delivery:CallbackDelivery) : Value :=
 toObject (ExtTreeMap.ofList (deliveryMembers delivery))

/-- `value.get(field)` on a stored value, whose object is an ordered map. -/
def storedMember (value:Value) (field:String) : Option Value :=
 (asObject value).bind fun object=>object[field]?

def invalidStored (field:String) : CallbackDeliveryError :=
 .storage ("stored callback dead letter has invalid " ++ field)

def callbackRequiredString (value:Value) (field:String) : Outcome String :=
 okOr ((storedMember value field).bind asString) (invalidStored field)

def callbackOptionalString (value:Value) (field:String) : Outcome (Option String) :=
 match storedMember value field with
 | none | some .null=>.ok none
 | some (.string text)=>.ok (some text)
 | some _=>.error (invalidStored field)

def callbackRequiredU64 (value:Value) (field:String) : Outcome ℕ :=
 okOr ((storedMember value field).bind asU64) (invalidStored field)

def callbackRequiredU32 (value:Value) (field:String) : Outcome ℕ := do
 let n ← callbackRequiredU64 value field
 ensure (decide (n<u32Limit)) (.storage ("stored callback value has oversized " ++ field))
 .ok n

def callbackOptionalU64 (value:Value) (field:String) : Outcome (Option ℕ) :=
 match storedMember value field with
 | none | some .null=>.ok none
 | some member=>
  okOr ((asU64 member).map some) (.storage ("stored callback value has invalid " ++ field))

def readDelivery (value:Value) : Outcome CallbackDelivery := do
 let deliveryId ← callbackRequiredString value "delivery_id"
 let subscriptionId ← callbackRequiredString value "subscription_id"
 let eventId ← callbackRequiredString value "event_id"
 let runId ← callbackRequiredString value "run_id"
 let sequence ← callbackRequiredU64 value "sequence"
 let cursor ← callbackRequiredString value "cursor"
 let attempt ← callbackRequiredU32 value "attempt"
 let idempotencyKey ← callbackRequiredString value "idempotency_key"
 let failurePolicyText ← callbackRequiredString value "failure_policy"
 let failurePolicy ← callbackFailurePolicyFromStr failurePolicyText
 let statusText ← callbackRequiredString value "status"
 let status ← callbackDeliveryStatusFromStr statusText
 let nextRetryAtUnixMs ← callbackOptionalU64 value "next_retry_at_unix_ms"
 let deliveredAtUnixMs ← callbackOptionalU64 value "delivered_at_unix_ms"
 let acknowledgedAtUnixMs ← callbackOptionalU64 value "acknowledged_at_unix_ms"
 let lastError ← callbackOptionalString value "last_error"
 let redriveCount ← callbackRequiredU32 value "redrive_count"
 let lastRedriveOperator ← callbackOptionalString value "last_redrive_operator"
 let lastRedriveReason ← callbackOptionalString value "last_redrive_reason"
 .ok ⟨deliveryId,subscriptionId,eventId,runId,sequence,cursor,attempt,idempotencyKey,
  failurePolicy,status,nextRetryAtUnixMs,deliveredAtUnixMs,acknowledgedAtUnixMs,lastError,
  redriveCount,lastRedriveOperator,lastRedriveReason⟩

def deliveryFromValue (value:Value) : Outcome CallbackDelivery := do
 let delivery ← readDelivery value
 validateCallbackDelivery delivery
 .ok delivery

structure DeliveryRow where
 status:String
 nextRetryAtUnixMs:Option ℤ
 sequence:ℤ
 deliveryJson:String
 claimGeneration:ℤ
 claimStartedAtUnixMs:Option ℤ
 claimExpiresAtUnixMs:Option ℤ

/-- The rows by `delivery_id`, the primary key. -/
abbrev SqliteCallbackDeliveryQueue := StringMap DeliveryRow

structure ClaimedCallbackDelivery where
 delivery:CallbackDelivery
 claimGeneration:ℕ
 claimStartedAtUnixMs:ℕ
 claimExpiresAtUnixMs:ℕ

def callbackU64ToI64 (value:ℕ) (label:String) : Outcome ℤ :=
 if (value:ℤ) ≤ i64Max then .ok value
 else .error (.storage (label ++ " exceeds sqlite integer range"))

def callbackI64ToU64 (value:ℤ) (label:String) : Outcome ℕ :=
 if 0≤value then .ok value.toNat else .error (.storage (label ++ " is negative"))

/-- `value.map(convert).transpose()`. -/
def transposed {α β:Type} (convert:α→Outcome β) : Option α→Outcome (Option β)
 | none=>.ok none
 | some a=>(convert a).map some

def optionalCallbackU64ToI64 (value:Option ℕ) (label:String) : Outcome (Option ℤ) :=
 transposed (callbackU64ToI64 · label) value

def optionalCallbackI64ToU64 (value:Option ℤ) (label:String) : Outcome (Option ℕ) :=
 transposed (callbackI64ToU64 · label) value

def queueErrors : StorageErrors CallbackDeliveryError where
 json message:=.storage message
 malformed message:=.storage message
 member what key:=.storage (what ++ " " ++ key)

/-- `ORDER BY sequence, delivery_id`. -/
def dueOrder (a b:String×DeliveryRow) : Prop :=
 a.2.sequence<b.2.sequence∨(a.2.sequence=b.2.sequence∧a.1≤b.1)

instance : DecidableRel dueOrder := fun _ _=>inferInstanceAs (Decidable (_ ∨ _))

namespace SqliteCallbackDeliveryQueue

variable (queue:SqliteCallbackDeliveryQueue)

/-- `SELECT .. WHERE condition ORDER BY sequence, delivery_id`. -/
def select (condition:DeliveryRow→Bool) : List (String×DeliveryRow) :=
 (queue.toList.filter fun entry=>condition entry.2).insertionSort dueOrder

/-- `UPDATE .. SET .. WHERE delivery_id = ? AND condition`, which must change one row. -/
def updateOne (deliveryId:String) (condition:DeliveryRow→Bool)
  (set:DeliveryRow→DeliveryRow) (message:String) : Outcome SqliteCallbackDeliveryQueue :=
 match queue[deliveryId]? with
 | none=>.error (.storage message)
 | some row=>
  if condition row then .ok (queue.insert deliveryId (set row)) else .error (.storage message)

section
variable {d:StringDisplay} (reader:JsonReader d)

/-- `delivery_from_value(callback_parse_json(text)?)`. -/
def deliveryFromText (text:String) : Outcome CallbackDelivery := do
 let value ← fromStr queueErrors reader text
 deliveryFromValue value

def deliveryFromRowValue (deliveryId:String) (row:DeliveryRow) : Outcome CallbackDelivery := do
 let delivery ← deliveryFromText reader row.deliveryJson
 ensure (delivery.deliveryId==deliveryId)
  (.storage "stored callback delivery identity does not match row key")
 let status ← callbackDeliveryStatusFromStr row.status
 ensure (status==delivery.status)
  (.storage "stored callback delivery status does not match row status")
 let nextRetry ← optionalCallbackI64ToU64 row.nextRetryAtUnixMs "callback delivery row next retry"
 ensure (nextRetry==delivery.nextRetryAtUnixMs)
  (.storage "stored callback delivery next retry does not match row")
 let sequence ← callbackI64ToU64 row.sequence "callback delivery row sequence"
 ensure (sequence==delivery.sequence)
  (.storage "stored callback delivery sequence does not match row")
 .ok delivery

/-- The fields that stay with a delivery for good. -/
def sameMetadata (a b:CallbackDelivery) : Bool :=
 a.subscriptionId==b.subscriptionId&&a.eventId==b.eventId&&a.runId==b.runId &&
  a.sequence==b.sequence&&a.cursor==b.cursor&&a.idempotencyKey==b.idempotencyKey &&
  a.failurePolicy==b.failurePolicy

def validRedrive (existing delivery:CallbackDelivery) : Bool :=
 existing.status == .deadLettered&&delivery.status == .pending &&
  decide (existing.redriveCount<delivery.redriveCount)&&sameMetadata delivery existing

def transitionColumns (d:StringDisplay) (delivery:CallbackDelivery) :
  Outcome (DeliveryRow→DeliveryRow) := do
 let nextRetry ← optionalCallbackU64ToI64 delivery.nextRetryAtUnixMs "callback delivery next retry"
 let sequence ← callbackU64ToI64 delivery.sequence "callback delivery sequence"
 .ok fun row=>
  { row with
    status:=callbackDeliveryStatusAsStr delivery.status,nextRetryAtUnixMs:=nextRetry,sequence
    deliveryJson:=toText d (deliveryToValue delivery),claimStartedAtUnixMs:=none
    claimExpiresAtUnixMs:=none }

def upsertExisting (existing delivery:CallbackDelivery) : Outcome SqliteCallbackDeliveryQueue :=
 if delivery=existing then .ok queue
 else do
  let redrive:=validRedrive existing delivery
  ensure (!(callbackDeliveryStatusIsTerminal existing.status && !redrive))
   (.storage "terminal callback delivery state cannot be overwritten")
  ensure (!(!redrive&&existing.status == .delivering))
   (.storage "callback delivery completion requires a matching claim generation")
  ensure (!(!redrive&&(existing.status != .delivering||delivery.status == .delivering)))
   (.storage "callback delivery state transition requires an active claim")
  ensure (!(!sameMetadata delivery existing ||
    (!redrive&&delivery.redriveCount != existing.redriveCount) ||
    decide (delivery.attempt<existing.attempt)))
   (.storage "callback delivery transition metadata conflict")
  let set ← transitionColumns d delivery
  queue.updateOne delivery.deliveryId
   (fun row=>row.status==callbackDeliveryStatusAsStr existing.status) set
   "callback delivery state changed before transition"

def insertNew (d:StringDisplay) (delivery:CallbackDelivery) :
  Outcome SqliteCallbackDeliveryQueue := do
 ensure (delivery.status != .delivering)
  (.storage "callback delivery must be claimed before entering delivering state")
 let set ← transitionColumns d delivery
 .ok (queue.insert delivery.deliveryId (set ⟨"",none,0,"",0,none,none⟩))

def upsertDelivery (delivery:CallbackDelivery) : Outcome SqliteCallbackDeliveryQueue := do
 validateCallbackDelivery delivery
 match queue[delivery.deliveryId]? with
 | some row=>
  let existing ← deliveryFromText reader row.deliveryJson
  queue.upsertExisting (d:=d) existing delivery
 | none=>queue.insertNew d delivery

def getDelivery (deliveryId:String) : Outcome (Option CallbackDelivery) :=
 match queue[deliveryId]? with
 | none=>.ok none
 | some row=>(deliveryFromRowValue reader deliveryId row).map some

def readWithGeneration (entry:String×DeliveryRow) : Outcome (CallbackDelivery×ℕ) := do
 let delivery ← deliveryFromRowValue reader entry.1 entry.2
 let generation ← callbackI64ToU64 entry.2.claimGeneration "callback delivery claim generation"
 .ok (delivery,generation)

def isDue (now:ℤ) (row:DeliveryRow) : Bool :=
 row.status==callbackDeliveryStatusAsStr .pending &&
  row.nextRetryAtUnixMs.all fun retry=>decide (retry≤now)

/-- One round of the loop that claims the due deliveries. -/
def claimOne (d:StringDisplay) (now expiresAt:ℕ) (delivery:CallbackDelivery)
  (previousGeneration:ℕ) :
  Outcome (ClaimedCallbackDelivery×SqliteCallbackDeliveryQueue) := do
 let generation ← okOr (checkedSucc previousGeneration)
  (.storage "callback delivery claim generation overflow")
 let claimed : CallbackDelivery:={ delivery with status:=.delivering,nextRetryAtUnixMs:=none }
 let generationColumn ← callbackU64ToI64 generation "callback delivery claim generation"
 let startColumn ← callbackU64ToI64 now "callback delivery claim start"
 let expiryColumn ← callbackU64ToI64 expiresAt "callback delivery claim expiration"
 let previousColumn ←
  callbackU64ToI64 previousGeneration "callback delivery previous claim generation"
 let queue ← queue.updateOne claimed.deliveryId
  (fun row=>row.status==callbackDeliveryStatusAsStr .pending&&row.claimGeneration==previousColumn)
  (fun row=>
   { row with
     status:=callbackDeliveryStatusAsStr .delivering,nextRetryAtUnixMs:=none
     deliveryJson:=toText d (deliveryToValue claimed),claimGeneration:=generationColumn
     claimStartedAtUnixMs:=some startColumn,claimExpiresAtUnixMs:=some expiryColumn })
  "callback delivery state changed during claim"
 .ok (⟨claimed,generation,now,expiresAt⟩,queue)

def claimAll (d:StringDisplay) (now expiresAt:ℕ) :
  List (CallbackDelivery×ℕ)→SqliteCallbackDeliveryQueue →
   Outcome (List ClaimedCallbackDelivery×SqliteCallbackDeliveryQueue)
 | [], queue=>.ok ([],queue)
 | (delivery,previousGeneration)::rest, queue=>do
  let (claim,queue) ← queue.claimOne d now expiresAt delivery previousGeneration
  let (claims,queue) ← claimAll d now expiresAt rest queue
  .ok (claim::claims,queue)

def claimDueDeliveries (now claimLease limit:ℕ) :
  Outcome (List ClaimedCallbackDelivery×SqliteCallbackDeliveryQueue) :=
 if limit=0 then .ok ([],queue)
 else do
  ensure (claimLease != 0) (.storage "callback delivery claim lease must be positive")
  let expiresAt ← okOr (checkedAdd now claimLease)
   (.storage "callback delivery claim lease expiration overflow")
  let nowColumn ← callbackU64ToI64 now "callback delivery claim time"
  let limitColumn ← callbackU64ToI64 limit "callback delivery claim limit"
  let claimed ← collect (readWithGeneration reader)
   ((queue.select (isDue nowColumn)).take limitColumn.toNat)
  claimAll d now expiresAt claimed queue

def completionChecks (claim:ClaimedCallbackDelivery) (delivery:CallbackDelivery)
  (completedAt:ℕ) : Outcome Unit := do
 validateCallbackDelivery delivery
 ensure (!(claim.claimGeneration==0||claim.claimExpiresAtUnixMs==0 ||
   decide (claim.claimExpiresAtUnixMs≤claim.claimStartedAtUnixMs)))
  (.storage "callback delivery claim fence is invalid")
 ensure (!decide (completedAt<claim.claimStartedAtUnixMs))
  (.storage "callback delivery claim not yet active at completion")
 ensure (!decide (claim.claimExpiresAtUnixMs≤completedAt))
  (.storage "callback delivery claim expired before completion")
 ensure (!(claim.delivery.status != .delivering||delivery.status == .delivering ||
   delivery.deliveryId != claim.delivery.deliveryId || !sameMetadata delivery claim.delivery ||
   delivery.redriveCount != claim.delivery.redriveCount ||
   decide (delivery.attempt<claim.delivery.attempt)))
  (.storage "callback delivery claim completion metadata conflict")

def completeClaimedDelivery (d:StringDisplay) (claim:ClaimedCallbackDelivery)
  (delivery:CallbackDelivery) (completedAt:ℕ) : Outcome SqliteCallbackDeliveryQueue := do
 completionChecks claim delivery completedAt
 let set ← transitionColumns d delivery
 let generation ← callbackU64ToI64 claim.claimGeneration "callback delivery claim generation"
 let start ← callbackU64ToI64 claim.claimStartedAtUnixMs "callback delivery claim start"
 let expiry ← callbackU64ToI64 claim.claimExpiresAtUnixMs "callback delivery claim expiration"
 queue.updateOne delivery.deliveryId
  (fun row=>row.status==callbackDeliveryStatusAsStr .delivering &&
   row.claimGeneration==generation&&row.claimStartedAtUnixMs==some start &&
   row.claimExpiresAtUnixMs==some expiry)
  set "callback delivery claim was lost or superseded"

def isLapsed (now:ℤ) (row:DeliveryRow) : Bool :=
 row.status==callbackDeliveryStatusAsStr .delivering &&
  row.claimExpiresAtUnixMs.any fun expiry=>decide (expiry≤now)

/-- The delivery as it goes back to be claimed again. -/
def recovered (now:ℕ) (delivery:CallbackDelivery) : CallbackDelivery :=
 { delivery with
   status:=.pending
   nextRetryAtUnixMs:=some now
   lastError:=some "delivery_recovered_after_worker_restart" }

def recoverOne (d:StringDisplay) (delivery:CallbackDelivery) (claimGeneration:ℕ) :
  Outcome SqliteCallbackDeliveryQueue := do
 let set ← transitionColumns d delivery
 let generation ← callbackU64ToI64 claimGeneration "callback delivery claim generation"
 queue.updateOne delivery.deliveryId
  (fun row=>row.status==callbackDeliveryStatusAsStr .delivering&&row.claimGeneration==generation)
  set "callback delivery state changed during in-flight recovery"

def recoverAll (d:StringDisplay) (now:ℕ) :
  List (CallbackDelivery×ℕ)→SqliteCallbackDeliveryQueue→Outcome SqliteCallbackDeliveryQueue
 | [], queue=>.ok queue
 | (delivery,generation)::rest, queue=>do
  let queue ← queue.recoverOne d (recovered now delivery) generation
  recoverAll d now rest queue

def recoverInFlightDeliveries (now:ℕ) : Outcome (ℕ×SqliteCallbackDeliveryQueue) := do
 let nowColumn ← callbackU64ToI64 now "callback delivery recovery time"
 let deliveries ← collect (readWithGeneration reader) (queue.select (isLapsed nowColumn))
 let queue ← recoverAll d now deliveries queue
 .ok (deliveries.length,queue)

def cancelled (reason:String) (delivery:CallbackDelivery) : CallbackDelivery :=
 { delivery with status:=.cancelled,nextRetryAtUnixMs:=none,lastError:=some reason }

/-- The columns of the claim stay as they are. -/
def cancelOne (d:StringDisplay) (delivery:CallbackDelivery) :
  Outcome SqliteCallbackDeliveryQueue := do
 let nextRetry ← optionalCallbackU64ToI64 delivery.nextRetryAtUnixMs "callback delivery next retry"
 let sequence ← callbackU64ToI64 delivery.sequence "callback delivery sequence"
 queue.updateOne delivery.deliveryId
  (fun row=>row.status==callbackDeliveryStatusAsStr .pending)
  (fun row=>
   { row with
     status:=callbackDeliveryStatusAsStr delivery.status,nextRetryAtUnixMs:=nextRetry,sequence
     deliveryJson:=toText d (deliveryToValue delivery) })
  "callback delivery state changed during subscription cancellation"

def cancelAll (d:StringDisplay) (reason:String) :
  List CallbackDelivery→SqliteCallbackDeliveryQueue→Outcome SqliteCallbackDeliveryQueue
 | [], queue=>.ok queue
 | delivery::rest, queue=>do
  let queue ← queue.cancelOne d (cancelled reason delivery)
  cancelAll d reason rest queue

def cancelPendingForSubscription (subscriptionId reason:String) :
  Outcome (ℕ×SqliteCallbackDeliveryQueue) := do
 ensure (!isBlank subscriptionId) (.emptyField "subscription_id")
 ensure (!isBlank reason) (.emptyField "reason")
 let pending ← collect (fun entry=>deliveryFromRowValue reader entry.1 entry.2)
  (queue.select fun row=>row.status==callbackDeliveryStatusAsStr .pending)
 let deliveries:=pending.filter fun delivery=>delivery.subscriptionId==subscriptionId
 let queue ← cancelAll d reason deliveries queue
 .ok (deliveries.length,queue)
end

end SqliteCallbackDeliveryQueue

end GraphBlocks.CallbackDeliveries
