import GraphBlocks.MachineRuns
import GraphBlocks.ToolSchemas

/-! `AsyncOperationStore` of the runtime core: operations that wait for a callback, the receipts
of the callbacks, the callbacks kept back until their operation is registered, and the events of
each operation. -/
namespace GraphBlocks.AsyncOperations
open Std Json CanonicalJson OrderedMap RustStd StoredJson ToolSchemas

inductive AsyncOperationKind where
 | tool | sandboxTask | ciJob | browserTask | workspaceTrial | externalProviderJob | documentJob
 | researchTask | custom

inductive AsyncOperationState where
 | created | submitted | waitingCallback | callbackReceived | polling | resuming
 | completed | failed | cancelled | expired
deriving DecidableEq

def AsyncOperationState.asStr : AsyncOperationState→String
 | .created=>"created"
 | .submitted=>"submitted"
 | .waitingCallback=>"waiting_callback"
 | .callbackReceived=>"callback_received"
 | .polling=>"polling"
 | .resuming=>"resuming"
 | .completed=>"completed"
 | .failed=>"failed"
 | .cancelled=>"cancelled"
 | .expired=>"expired"

/-- The states in which a callback is late. -/
def AsyncOperationState.isTerminal : AsyncOperationState→Bool
 | .completed | .failed | .cancelled | .expired=>true
 | _=>false

structure AsyncOperation where
 operationId:String
 runId:String
 nodeId:String
 attemptId:String
 kind:AsyncOperationKind
 providerOperationId:Option String
 state:AsyncOperationState
 resumeTokenHash:String
 idempotencyKey:String
 expectedSchema:String
 createdAtUnixMs:ℕ
 submittedAtUnixMs:Option ℕ
 expiresAtUnixMs:Option ℕ
 infiniteWaitPolicy:Option String
 completedAtUnixMs:Option ℕ
 expectedCallbackPayloadBytes:Option ℕ
 resumePolicyReevaluation:Bool
 callbackAttemptFencing:Bool
 resumeOwnershipFence:Bool

inductive AsyncOperationError where
 | canonicalJson (error:CanonicalJsonError)
 | emptyField (field:String)
 | invalidOperation (operationId reason:String)
 | invalidExpiration (operationId:String) (createdAtUnixMs expiresAtUnixMs:ℕ)
 | duplicateOperation (operationId:String)
 | operationNotFound (operationId:String)
 | operationIdentityMismatch (operationId field expected actual:String)
 | operationNotWaitingCallback (operationId:String) (state:AsyncOperationState)
 | operationTerminal (operationId:String) (state:AsyncOperationState)
 | staleAttempt (operationId expectedAttemptId actualAttemptId:String)
 | callbackSchemaMissing (schemaId:String)
 | callbackSchemaInvalid (operationId schemaId path expected:String)
 | callbackAuthenticationFailed (endpointId reason:String)
 | callbackPayloadTooLarge (operationId:String) (maxPayloadBytes actualPayloadBytes:ℕ)
 | callbackIdempotencyConflict (operationId idempotencyKey field:String)
deriving DecidableEq

/-- The loop that refuses the first blank field. -/
def checkFields : List (String×String)→Except AsyncOperationError Unit
 | []=>.ok ()
 | (field,value)::rest=>do
  ensure (!isBlank value) (.emptyField field)
  checkFields rest

def isLowerHex (c:Char) : Bool := c.isDigit||(decide ('a' ≤ c)&&decide (c ≤ 'f'))

/-- A canonical `sha256:` digest. -/
def isSha256Digest (text:String) : Bool :=
 match text.toList.dropPrefix? "sha256:".toList with
 | none=>false
 | some digest=>digest.length==64&&digest.all isLowerHex

namespace AsyncOperation

variable (operation:AsyncOperation)

def invalid (reason:String) : AsyncOperationError := .invalidOperation operation.operationId reason

def unbounded : Bool := operation.expiresAtUnixMs.isNone&&operation.infiniteWaitPolicy.isNone

def isWait : Bool :=
 operation.state == .waitingCallback||operation.state == .callbackReceived ||
  operation.state == .polling

def validateCompleted : Except AsyncOperationError Unit :=
 ensure (operation.completedAtUnixMs.isSome || !operation.state.isTerminal)
  (operation.invalid (operation.state.asStr ++ " operations require completed_at"))

/-- `Some(a), Some(b)` with a relation that must not hold. -/
def bothAre (a b:Option ℕ) (bad:ℕ→ℕ→Bool) : Bool := a.any fun x=>b.any fun y=>bad x y

def validateTimes : Except AsyncOperationError Unit := do
 ensure (!(operation.submittedAtUnixMs.any fun t=>decide (t<operation.createdAtUnixMs)))
  (operation.invalid "submitted_at precedes created_at")
 operation.validateCompleted
 ensure (!(bothAre operation.submittedAtUnixMs operation.completedAtUnixMs
   fun submitted completed=>decide (completed<submitted)))
  (operation.invalid "completed_at precedes submitted_at")
 ensure (!(operation.state != .expired&&bothAre operation.completedAtUnixMs
   operation.expiresAtUnixMs fun completed expires=>decide (expires≤completed)))
  (operation.invalid "completed_at reaches or exceeds expires_at")
 ensure (!(operation.expiresAtUnixMs.any fun t=>decide (t≤operation.createdAtUnixMs)))
  (.invalidExpiration operation.operationId operation.createdAtUnixMs
   (operation.expiresAtUnixMs.getD 0))
 ensure (!(bothAre operation.submittedAtUnixMs operation.expiresAtUnixMs
   fun submitted expires=>decide (expires≤ submitted)))
  (operation.invalid "expires_at must be after submitted_at")

def validateState : Except AsyncOperationError Unit := do
 ensure (!(operation.isWait&&operation.expiresAtUnixMs.isSome&&operation.infiniteWaitPolicy.isSome))
  (operation.invalid
   "async operation wait must not define both expires_at_unix_ms and infinite_wait_policy")
 ensure (!(operation.state == .waitingCallback&&operation.unbounded))
  (operation.invalid
   "waiting callback operations require an expiration or infinite_wait_policy")
 ensure (!(operation.state == .callbackReceived&&operation.unbounded))
  (operation.invalid
   "callback_received operations require an expiration or infinite_wait_policy")
 ensure (!(operation.state == .polling&&operation.unbounded))
  (operation.invalid "polling operations require an expiration or infinite_wait_policy")
 ensure (!(operation.state == .created&&operation.providerOperationId.isSome))
  (operation.invalid "created operations cannot have provider_operation_id")
 ensure (!(operation.state == .created&&operation.submittedAtUnixMs.isSome))
  (operation.invalid "created operations cannot have submitted_at")
 ensure (!(operation.state == .created&&operation.completedAtUnixMs.isSome))
  (operation.invalid "created operations cannot have completed_at")
 ensure (!(operation.state == .created&&operation.expiresAtUnixMs.isSome))
  (operation.invalid "created operations cannot have expires_at")
 ensure (!(operation.state != .created&&operation.submittedAtUnixMs.isNone))
  (operation.invalid "non-created operations require submitted_at")

def validate : Except AsyncOperationError Unit := do
 checkFields [("operation_id",operation.operationId),("run_id",operation.runId),
  ("node_id",operation.nodeId),("attempt_id",operation.attemptId),
  ("resume_token_hash",operation.resumeTokenHash),
  ("idempotency_key",operation.idempotencyKey),
  ("expected_schema",operation.expectedSchema)]
 ensure (operation.createdAtUnixMs != 0) (operation.invalid "created_at must be positive")
 ensure (isSha256Digest operation.resumeTokenHash)
  (operation.invalid "resume_token_hash must be a canonical sha256 digest")
 ensure (!operation.providerOperationId.any isBlank) (.emptyField "provider_operation_id")
 ensure (!operation.infiniteWaitPolicy.any isBlank) (.emptyField "infinite_wait_policy")
 operation.validateState
 operation.validateTimes

end AsyncOperation

structure AsyncCallbackSubmission where
 callbackId:String
 operationId:String
 runId:String
 nodeId:String
 attemptId:String
 providerOperationId:Option String
 idempotencyKey:String
 payload:Value
 receivedAtUnixMs:ℕ
 verifiedBy:String
 policySnapshotId:String
deriving DecidableEq

structure CallbackArtifactRef where
 artifactId:String
 uri:String
 mediaType:Option String
 checksum:Option String
deriving DecidableEq

def CallbackArtifactRef.validate (artifact:CallbackArtifactRef) :
  Except AsyncOperationError Unit := do
 checkFields [("artifact_id",artifact.artifactId),("uri",artifact.uri)]
 ensure (!artifact.mediaType.any isBlank) (.emptyField "media_type")
 ensure (!artifact.checksum.any isBlank) (.emptyField "checksum")

def optionalValue : Option String→Value
 | none=>.null
 | some text=>.string text

def CallbackArtifactRef.canonicalValue (artifact:CallbackArtifactRef) : Value :=
 toObject (ExtTreeMap.ofList [("artifact_id",.string artifact.artifactId),
  ("uri",.string artifact.uri),("media_type",optionalValue artifact.mediaType),
  ("checksum",optionalValue artifact.checksum)])

structure ExternalCallbackReceived where
 callbackId:String
 operationId:String
 runId:String
 nodeId:String
 attemptId:String
 providerOperationId:Option String
 idempotencyKey:String
 payload:Value
 payloadDigest:String
 artifacts:List CallbackArtifactRef
 receivedAtUnixMs:ℕ
 verifiedBy:String
 policySnapshotId:String
deriving DecidableEq

inductive AsyncCallbackResumeDecision where
 | resumeAuthorized (authenticationVerified:Bool) (policyDecisionId budgetReservationId
   compatibleReleaseId ownershipFenceToken:String)
 | pauseAuthorizationRequired
 | pauseBudget (reason:String)
 | denyPolicy (decisionId reason:String)
 | pauseReleaseIncompatible (requiredReleaseId availableReleaseId:String)

structure AcceptedCallback where
 receipt:ExternalCallbackReceived
 duplicate:Bool
 shouldResume:Bool
deriving DecidableEq

structure QuarantinedCallback where
 operationId:String
 idempotencyKey:String
 duplicate:Bool
 expiresAtUnixMs:ℕ

structure QuarantinedCallbackRecord where
 submission:AsyncCallbackSubmission
 expiresAtUnixMs:ℕ
deriving DecidableEq

inductive AsyncOperationEvent where
 | stateChanged (operationId:String) (source target:AsyncOperationState) (occurredAtUnixMs:ℕ)
 | externalCallbackReceived (receipt:ExternalCallbackReceived)
 | externalCallbackRejected (operationId callbackId reason:String) (occurredAtUnixMs:ℕ)
   (payloadDigest verifiedBy policySnapshotId:String)
 | callbackResumePaused (operationId reason:String) (occurredAtUnixMs:ℕ)
 | callbackResumeAuthorized (operationId policyDecisionId budgetReservationId
   compatibleReleaseId ownershipFenceToken:String) (occurredAtUnixMs:ℕ)
 | callbackResumeDenied (operationId decisionId reason:String) (occurredAtUnixMs:ℕ)
 | lateExternalCallbackReceived (receipt:ExternalCallbackReceived)
   (terminalState:AsyncOperationState)
deriving DecidableEq

def validateCallbackSubmissionIdentity (submission:AsyncCallbackSubmission) :
  Except AsyncOperationError Unit := do
 checkFields [("callback_id",submission.callbackId),("operation_id",submission.operationId),
  ("run_id",submission.runId),("node_id",submission.nodeId),
  ("attempt_id",submission.attemptId),("idempotency_key",submission.idempotencyKey),
  ("verified_by",submission.verifiedBy),("policy_snapshot_id",submission.policySnapshotId)]
 ensure (!submission.providerOperationId.any isBlank) (.emptyField "provider_operation_id")
 ensure (submission.receivedAtUnixMs != 0) (.invalidOperation submission.operationId
  "callback received_at_unix_ms must be non-zero")

def AsyncCallbackResumeDecision.validate :
  AsyncCallbackResumeDecision→Except AsyncOperationError Unit
 | .resumeAuthorized _ policyDecisionId budgetReservationId compatibleReleaseId
   ownershipFenceToken=>
  checkFields [("resume_policy_decision_id",policyDecisionId),
   ("resume_budget_reservation_id",budgetReservationId),
   ("resume_compatible_release_id",compatibleReleaseId),
   ("resume_ownership_fence_token",ownershipFenceToken)]
 | .pauseAuthorizationRequired=>.ok ()
 | .pauseBudget reason=>checkFields [("resume_pause_reason",reason)]
 | .denyPolicy decisionId reason=>
  checkFields [("resume_policy_decision_id",decisionId),("resume_policy_reason",reason)]
 | .pauseReleaseIncompatible requiredReleaseId availableReleaseId=>
  checkFields [("required_release_id",requiredReleaseId),
   ("available_release_id",availableReleaseId)]

def validateCallbackSubmissionAndResumeDecision (submission:AsyncCallbackSubmission)
  (decision:AsyncCallbackResumeDecision) : Except AsyncOperationError Unit := do
 validateCallbackSubmissionIdentity submission
 decision.validate

def eqIgnoreAsciiCase (a b:String) : Bool := a.toList.map Char.toLower==b.toList.map Char.toLower

def ensureCallbackSubmissionAuthenticated (submission:AsyncCallbackSubmission) :
  Except AsyncOperationError Unit :=
 ensure (!eqIgnoreAsciiCase (trim submission.verifiedBy) "unauthenticated")
  (.callbackAuthenticationFailed "async_callback" "unauthenticated_callback")

section

-- the display of strings in JSON texts, and SHA-256 as hexadecimal digits
variable (d:StringDisplay) (sha256:List Char→String)

def canonicalHash (value:Value) : Except AsyncOperationError String :=
 match canonicalJson d value with
 | .error e=>.error (.canonicalJson e)
 | .ok text=>.ok ("sha256:" ++ sha256 text)

def callbackPayloadSizeBytes (payload:Value) : Except AsyncOperationError ℕ :=
 match canonicalJson d payload with
 | .error e=>.error (.canonicalJson e)
 | .ok text=>.ok (String.ofList text).utf8ByteSize

def isLogKey (key:String) : Bool :=
 key == "log" || key == "logs" || key == "output" || key == "stdout" || key == "stderr"

/-- The loop that keeps the small members of a payload. -/
def compactMembers : Members→StringMap Value→Except AsyncOperationError (StringMap Value)
 | [], compact=>.ok compact
 | (key,value)::rest, compact=>do
  let size ← callbackPayloadSizeBytes d value
  compactMembers rest
   (if size≤256∧isLogKey key=false then compact.insert key value else compact)

def compactCallbackPayloadWithArtifact (payload:Value) (artifact:CallbackArtifactRef) :
  Except AsyncOperationError Value := do
 let compact ← compactMembers d (match payload with | .object members=>members | _=>[]) ∅
 .ok (toObject (compact.insert "artifact" artifact.canonicalValue))

/-- The checks of one field after the other; the first difference is the answer. -/
def firstDifference : List (String×Bool)→Option String
 | []=>none
 | (field,same)::rest=>if same then firstDifference rest else some field

def callbackIdempotencyConflictField (receipt:ExternalCallbackReceived)
  (submission:AsyncCallbackSubmission) : Except AsyncOperationError (Option String) :=
 match firstDifference [("operation_id",receipt.operationId==submission.operationId),
   ("run_id",receipt.runId==submission.runId),("node_id",receipt.nodeId==submission.nodeId),
   ("attempt_id",receipt.attemptId==submission.attemptId),
   ("provider_operation_id",receipt.providerOperationId==submission.providerOperationId),
   ("idempotency_key",receipt.idempotencyKey==submission.idempotencyKey)] with
 | some field=>.ok (some field)
 | none=>do
  let digest ← canonicalHash d sha256 submission.payload
  .ok (firstDifference [("payload_digest",receipt.payloadDigest==digest),
   ("verified_by",receipt.verifiedBy==submission.verifiedBy),
   ("policy_snapshot_id",receipt.policySnapshotId==submission.policySnapshotId)])

def callbackSubmissionIdempotencyConflictField (existing incoming:AsyncCallbackSubmission) :
  Except AsyncOperationError (Option String) :=
 match firstDifference [("operation_id",existing.operationId==incoming.operationId),
   ("run_id",existing.runId==incoming.runId),("node_id",existing.nodeId==incoming.nodeId),
   ("attempt_id",existing.attemptId==incoming.attemptId),
   ("provider_operation_id",existing.providerOperationId==incoming.providerOperationId),
   ("idempotency_key",existing.idempotencyKey==incoming.idempotencyKey)] with
 | some field=>.ok (some field)
 | none=>do
  let existingDigest ← canonicalHash d sha256 existing.payload
  let incomingDigest ← canonicalHash d sha256 incoming.payload
  .ok (firstDifference [("payload_digest",existingDigest==incomingDigest),
   ("verified_by",existing.verifiedBy==incoming.verifiedBy),
   ("policy_snapshot_id",existing.policySnapshotId==incoming.policySnapshotId)])
end

abbrev PairMap (α:Type) := ExtTreeMap (String×String) α comparePair

/-- `AsyncOperationStoreInner`, the data behind the lock. -/
structure AsyncOperationStore where
 operations:StringMap AsyncOperation
 receiptsByOperationAndIdempotency:PairMap ExternalCallbackReceived
 quarantinedCallbacks:PairMap QuarantinedCallbackRecord
 eventsByOperation:StringMap (List AsyncOperationEvent)

namespace AsyncOperationStore

def new : AsyncOperationStore := ⟨∅,∅,∅,∅⟩

variable (store:AsyncOperationStore)

/-- `events_by_operation.entry(id).or_default().push(event)`. -/
def pushEvent (operationId:String) (event:AsyncOperationEvent) : AsyncOperationStore :=
 { store with
   eventsByOperation:=store.eventsByOperation.insert operationId
    ((store.eventsByOperation[operationId]?.getD [])++[event]) }

def registrationEvents (operation:AsyncOperation) : List AsyncOperationEvent :=
 (match operation.submittedAtUnixMs with
 | none=>[]
 | some submittedAt=>[.stateChanged operation.operationId .created .submitted submittedAt]) ++
 (if operation.state=.waitingCallback then
  [.stateChanged operation.operationId .submitted .waitingCallback
   (operation.submittedAtUnixMs.getD operation.createdAtUnixMs)]
 else [])

def register (operation:AsyncOperation) : Except AsyncOperationError Unit×AsyncOperationStore :=
 match operation.validate with
 | .error e=>(.error e,store)
 | .ok ()=>
  if store.operations.contains operation.operationId then
   (.error (.duplicateOperation operation.operationId),store)
  else
   (.ok (),{ store with
    eventsByOperation:=
     store.eventsByOperation.insert operation.operationId (registrationEvents operation)
    operations:=store.operations.insert operation.operationId operation })

section
variable (d:StringDisplay) (sha256:List Char→String)

def quarantineChecks (submission:AsyncCallbackSubmission) (expiresAtUnixMs:ℕ) :
  Except AsyncOperationError Unit := do
 validateCallbackSubmissionAndResumeDecision submission .pauseAuthorizationRequired
 ensureCallbackSubmissionAuthenticated submission
 ensure (decide (submission.receivedAtUnixMs<expiresAtUnixMs))
  (.invalidExpiration submission.operationId submission.receivedAtUnixMs expiresAtUnixMs)

/-- What the store answers for a callback that is quarantined already. -/
def quarantinedAgain (existing:QuarantinedCallbackRecord) (submission:AsyncCallbackSubmission) :
  Except AsyncOperationError QuarantinedCallback :=
 match callbackSubmissionIdempotencyConflictField d sha256 existing.submission submission with
 | .error e=>.error e
 | .ok (some field)=>
  .error (.callbackIdempotencyConflict submission.operationId submission.idempotencyKey field)
 | .ok none=>
  .ok ⟨existing.submission.operationId,existing.submission.idempotencyKey,true,
   existing.expiresAtUnixMs⟩

def quarantineCallbackBeforeOperationCommit (submission:AsyncCallbackSubmission)
  (expiresAtUnixMs:ℕ) :
  Except AsyncOperationError QuarantinedCallback×AsyncOperationStore :=
 match quarantineChecks submission expiresAtUnixMs with
 | .error e=>(.error e,store)
 | .ok ()=>
  if store.operations.contains submission.operationId then
   (.error (.invalidOperation submission.operationId
    "operation already exists; submit callback through normal admission"),store)
  else
   match store.quarantinedCallbacks[(submission.operationId,submission.idempotencyKey)]? with
   | some existing=>(quarantinedAgain d sha256 existing submission,store)
   | none=>
    (.ok ⟨submission.operationId,submission.idempotencyKey,false,expiresAtUnixMs⟩,
     { store with
       quarantinedCallbacks:=store.quarantinedCallbacks.insert
        (submission.operationId,submission.idempotencyKey) ⟨submission,expiresAtUnixMs⟩ })

def reject (submission:AsyncCallbackSubmission) (operationId digest reason:String) :
  AsyncOperationStore :=
 store.pushEvent submission.operationId (.externalCallbackRejected operationId
  submission.callbackId reason submission.receivedAtUnixMs digest submission.verifiedBy
  submission.policySnapshotId)

def recordCallbackRejected (submission:AsyncCallbackSubmission) (reason:String) :
  Except AsyncOperationError Unit×AsyncOperationStore :=
 if store.operations.contains submission.operationId then
  match canonicalHash d sha256 submission.payload with
  | .error e=>(.error e,store)
  | .ok digest=>(.ok (),store.reject submission submission.operationId digest reason)
 else (.ok (),store)

def receiptOf (submission:AsyncCallbackSubmission) (digest:String)
  (artifacts:List CallbackArtifactRef) : ExternalCallbackReceived where
 callbackId:=submission.callbackId
 operationId:=submission.operationId
 runId:=submission.runId
 nodeId:=submission.nodeId
 attemptId:=submission.attemptId
 providerOperationId:=submission.providerOperationId
 idempotencyKey:=submission.idempotencyKey
 payload:=submission.payload
 payloadDigest:=digest
 artifacts
 receivedAtUnixMs:=submission.receivedAtUnixMs
 verifiedBy:=submission.verifiedBy
 policySnapshotId:=submission.policySnapshotId

/-- A callback that is refused: the reason of the event and the error of the caller. -/
structure Refusal where
 reason:String
 error:AsyncOperationError

def identityMismatch (operation:AsyncOperation) (field expected actual:String) : Refusal :=
 ⟨"identity_mismatch:" ++ field,
  .operationIdentityMismatch operation.operationId field expected actual⟩

def schemaRefusal (operation:AsyncOperation) : ToolSchemaValidationError→Refusal
 | .schemaMissing schemaId=>⟨"schema_invalid",.callbackSchemaMissing schemaId⟩
 | .typeMismatch schemaId path expected=>
  ⟨"schema_invalid",.callbackSchemaInvalid operation.operationId schemaId path expected⟩
 | .requiredPropertyMissing schemaId path property=>
  ⟨"schema_invalid",.callbackSchemaInvalid operation.operationId schemaId path
   ("required property " ++ property)⟩

/-- The checks of a callback against its operation, in the order of the source. -/
def admission (operation:AsyncOperation) (submission:AsyncCallbackSubmission)
  (registry:ToolSchemaRegistry) : Except Refusal Unit := do
 ensure (operation.runId==submission.runId)
  (identityMismatch operation "run_id" operation.runId submission.runId)
 ensure (operation.nodeId==submission.nodeId)
  (identityMismatch operation "node_id" operation.nodeId submission.nodeId)
 ensure (operation.attemptId==submission.attemptId)
  ⟨"stale_attempt",.staleAttempt operation.operationId operation.attemptId submission.attemptId⟩
 ensure (operation.providerOperationId==submission.providerOperationId)
  (identityMismatch operation "provider_operation_id" (operation.providerOperationId.getD "")
   (submission.providerOperationId.getD ""))
 (registry.validate operation.expectedSchema submission.payload).mapError
  (schemaRefusal operation)
 ensure (operation.state == .waitingCallback||operation.state.isTerminal)
  ⟨"operation_not_waiting_callback:" ++ operation.state.asStr,
   .operationNotWaitingCallback operation.operationId operation.state⟩
 ensure (!(operation.state == .waitingCallback &&
   operation.expiresAtUnixMs.any fun t=>decide (t≤ submission.receivedAtUnixMs)))
  ⟨"callback_after_expiration",.invalidOperation operation.operationId
   "callback received after operation expiration"⟩

def resumeOutcome (operationId:String) (receivedAt:ℕ) :
  AsyncCallbackResumeDecision→AsyncOperationEvent×Bool
 | .resumeAuthorized true policyDecisionId budgetReservationId compatibleReleaseId
   ownershipFenceToken=>
  (.callbackResumeAuthorized operationId policyDecisionId budgetReservationId
   compatibleReleaseId ownershipFenceToken receivedAt,true)
 | .resumeAuthorized false _ _ _ _=>
  (.callbackResumePaused operationId "explicit callback resume authorization required" receivedAt,
   false)
 | .pauseAuthorizationRequired=>
  (.callbackResumePaused operationId "explicit callback resume authorization required" receivedAt,
   false)
 | .pauseBudget reason=>(.callbackResumePaused operationId reason receivedAt,false)
 | .denyPolicy decisionId reason=>
  (.callbackResumeDenied operationId decisionId reason receivedAt,false)
 | .pauseReleaseIncompatible requiredReleaseId availableReleaseId=>
  (.callbackResumePaused operationId ("release incompatible: required " ++ requiredReleaseId ++
   ", available " ++ availableReleaseId) receivedAt,false)

def storeReceipt (receipt:ExternalCallbackReceived) (submission:AsyncCallbackSubmission) :
  AsyncOperationStore :=
 { store with
   receiptsByOperationAndIdempotency:=store.receiptsByOperationAndIdempotency.insert
    (submission.operationId,submission.idempotencyKey) receipt }

def acceptLate (operation:AsyncOperation) (submission:AsyncCallbackSubmission)
  (receipt:ExternalCallbackReceived) : AcceptedCallback×AsyncOperationStore :=
 (⟨receipt,false,false⟩,(store.pushEvent submission.operationId
   (.lateExternalCallbackReceived receipt operation.state)).storeReceipt receipt submission)

def acceptWaiting (operation:AsyncOperation) (submission:AsyncCallbackSubmission)
  (receipt:ExternalCallbackReceived) (decision:AsyncCallbackResumeDecision) :
  AcceptedCallback×AsyncOperationStore :=
 let outcome:=resumeOutcome submission.operationId submission.receivedAtUnixMs decision
 let received:=store.pushEvent submission.operationId (.externalCallbackReceived receipt)
 let moved:={ received with
  operations:=received.operations.insert submission.operationId
   { operation with state:=.callbackReceived } }
 let changed:=moved.pushEvent submission.operationId
  (.stateChanged submission.operationId operation.state .callbackReceived
   submission.receivedAtUnixMs)
 (⟨receipt,false,outcome.2⟩,
  (changed.pushEvent submission.operationId outcome.1).storeReceipt receipt submission)

def acceptAgain (receipt:ExternalCallbackReceived) (submission:AsyncCallbackSubmission)
  (digest:String) : Except AsyncOperationError AcceptedCallback×AsyncOperationStore :=
 match callbackIdempotencyConflictField d sha256 receipt submission with
 | .error e=>(.error e,store)
 | .ok (some field)=>
  (.error (.callbackIdempotencyConflict submission.operationId submission.idempotencyKey field),
   store.reject submission submission.operationId digest ("idempotency_conflict:" ++ field))
 | .ok none=>(.ok ⟨receipt,true,false⟩,store)

/-- A callback whose key has no receipt yet. -/
def acceptNew (submission:AsyncCallbackSubmission) (registry:ToolSchemaRegistry)
  (artifacts:List CallbackArtifactRef) (decision:AsyncCallbackResumeDecision)
  (digest:String) : Except AsyncOperationError AcceptedCallback×AsyncOperationStore :=
 match store.operations[submission.operationId]? with
 | none=>
  (.error (.operationNotFound submission.operationId),
   store.reject submission submission.operationId digest "operation_not_found")
 | some operation=>
  match admission operation submission registry with
  | .error refusal=>
   (.error refusal.error,store.reject submission operation.operationId digest refusal.reason)
  | .ok ()=>
   let receipt:=receiptOf submission digest artifacts
   if operation.state.isTerminal then
    let late:=store.acceptLate operation submission receipt
    (.ok late.1,late.2)
   else
    let waiting:=store.acceptWaiting operation submission receipt decision
    (.ok waiting.1,waiting.2)

def acceptValidatedCallback (submission:AsyncCallbackSubmission) (registry:ToolSchemaRegistry)
  (artifacts:List CallbackArtifactRef) (decision:AsyncCallbackResumeDecision) :
  Except AsyncOperationError AcceptedCallback×AsyncOperationStore :=
 match canonicalHash d sha256 submission.payload with
 | .error e=>(.error e,store)
 | .ok digest=>
  match store.receiptsByOperationAndIdempotency[
    (submission.operationId,submission.idempotencyKey)]? with
  | some receipt=>store.acceptAgain d sha256 receipt submission digest
  | none=>store.acceptNew submission registry artifacts decision digest

inductive Ingestion where
 | limited (maxPayloadBytes:ℕ)
 | withArtifact (maxPayloadBytes:ℕ) (artifact:CallbackArtifactRef)

def defaultMaxPayloadBytes : ℕ := 262144

/-- An entry that fails before the lock, after the rejection is recorded or without a trace. -/
inductive EntryFailure where
 | silent (error:AsyncOperationError)
 | recorded (reason:String) (error:AsyncOperationError)

def silently {α:Type} : Except AsyncOperationError α→Except EntryFailure α
 | .error e=>.error (.silent e)
 | .ok a=>.ok a

/-- The submission and the artifacts that go into the locked section. -/
def ingest (submission:AsyncCallbackSubmission) :
  Ingestion→Except EntryFailure (AsyncCallbackSubmission×List CallbackArtifactRef)
 | .limited maxPayloadBytes=>do
  let size ← silently (callbackPayloadSizeBytes d submission.payload)
  ensure (decide (size≤ maxPayloadBytes)) (.recorded "payload_too_large"
   (.callbackPayloadTooLarge submission.operationId maxPayloadBytes size))
  .ok (submission,[])
 | .withArtifact maxPayloadBytes artifact=>do
  let size ← silently (callbackPayloadSizeBytes d submission.payload)
  if size≤ maxPayloadBytes then .ok (submission,[])
  else do
   silently artifact.validate
   let payload ← silently (compactCallbackPayloadWithArtifact d submission.payload artifact)
   .ok ({ submission with payload:=payload },[artifact])

/-- Everything an entry does before the locked section. -/
def enter (submission:AsyncCallbackSubmission) (ingestion:Ingestion)
  (decision:AsyncCallbackResumeDecision) :
  Except EntryFailure (AsyncCallbackSubmission×List CallbackArtifactRef) := do
 silently (validateCallbackSubmissionAndResumeDecision submission decision)
 (ensureCallbackSubmissionAuthenticated submission).mapError (.recorded "authentication_failed")
 ingest d submission ingestion

/-- What an entry does once its own checks are made. -/
def acceptEntered (submission:AsyncCallbackSubmission) (registry:ToolSchemaRegistry)
  (decision:AsyncCallbackResumeDecision) :
  Except EntryFailure (AsyncCallbackSubmission×List CallbackArtifactRef) →
   Except AsyncOperationError AcceptedCallback×AsyncOperationStore
 | .error (.silent e)=>(.error e,store)
 | .error (.recorded reason e)=>
  let recorded:=store.recordCallbackRejected d sha256 submission reason
  (recorded.1.bind fun _=>.error e,recorded.2)
 | .ok (prepared,artifacts)=>
  store.acceptValidatedCallback d sha256 prepared registry artifacts decision

/-- The common body of the callback entries. -/
def acceptCallbackBy (ingestion:Ingestion) (submission:AsyncCallbackSubmission)
  (registry:ToolSchemaRegistry) (decision:AsyncCallbackResumeDecision) :
  Except AsyncOperationError AcceptedCallback×AsyncOperationStore :=
 store.acceptEntered d sha256 submission registry decision (enter d submission ingestion decision)

def acceptCallbackWithLimitsAndResumeDecision (submission:AsyncCallbackSubmission)
  (registry:ToolSchemaRegistry) (maxPayloadBytes:ℕ) (decision:AsyncCallbackResumeDecision) :=
 store.acceptCallbackBy d sha256 (.limited maxPayloadBytes) submission registry decision

def acceptCallbackWithResumeDecision (submission:AsyncCallbackSubmission)
  (registry:ToolSchemaRegistry) (decision:AsyncCallbackResumeDecision) :=
 store.acceptCallbackWithLimitsAndResumeDecision d sha256 submission registry
  defaultMaxPayloadBytes decision

/-- The loop that takes the callbacks of an operation out of quarantine. A payload without a
digest ends the call with the callbacks before it taken out. -/
def drainLoop (operationId:String) (createdAtUnixMs:ℕ) :
  List (String×String)→List AsyncCallbackSubmission→AsyncOperationStore →
   Except AsyncOperationError (List AsyncCallbackSubmission)×AsyncOperationStore
 | [], submissions, store=>(.ok submissions,store)
 | key::rest, submissions, store=>
  match store.quarantinedCallbacks[key]? with
  | none=>drainLoop operationId createdAtUnixMs rest submissions store
  | some record=>
   let taken:=
    { store with quarantinedCallbacks:=store.quarantinedCallbacks.erase key }
   if record.expiresAtUnixMs≤createdAtUnixMs then
    match canonicalHash d sha256 record.submission.payload with
    | .error e=>(.error e,taken)
    | .ok digest=>
     drainLoop operationId createdAtUnixMs rest submissions
      (taken.pushEvent operationId (.externalCallbackRejected record.submission.operationId
       record.submission.callbackId "quarantined_callback_expired" record.expiresAtUnixMs
       digest record.submission.verifiedBy record.submission.policySnapshotId))
   else drainLoop operationId createdAtUnixMs rest (submissions++[record.submission]) taken

def replaysBefore (left right:AsyncCallbackSubmission) : Prop :=
 left.receivedAtUnixMs<right.receivedAtUnixMs∨left.receivedAtUnixMs=right.receivedAtUnixMs ∧
   (left.callbackId<right.callbackId ∨
    left.callbackId=right.callbackId∧left.idempotencyKey≤right.idempotencyKey)

instance : DecidableRel replaysBefore := fun left right=>by
 unfold replaysBefore
 infer_instance

/-- The first locked section of a replay: the callbacks to submit, in order. -/
def drainQuarantinedCallbacks (operationId:String) :
  Except AsyncOperationError (List AsyncCallbackSubmission)×AsyncOperationStore :=
 match store.operations[operationId]? with
 | none=>(.error (.operationNotFound operationId),store)
 | some operation=>
  let keys:=(store.quarantinedCallbacks.toList.map Prod.fst).filter (·.1==operationId)
  let drained:=drainLoop d sha256 operationId operation.createdAtUnixMs keys [] store
  (drained.1.map fun submissions=>submissions.insertionSort replaysBefore,drained.2)
end

def validateTerminalTransitionTimestamp (operation:AsyncOperation) (field:String)
  (terminalAt:ℕ) : Except AsyncOperationError Unit := do
 ensure (terminalAt != 0) (operation.invalid (field ++ " must be positive"))
 ensure (!(operation.submittedAtUnixMs.any fun t=>decide (terminalAt<t)))
  (operation.invalid (field ++ " precedes submitted_at"))

/-- The states that can no longer be ended. -/
def isOver (state:AsyncOperationState) : Bool := state == .callbackReceived||state.isTerminal

def cancelChecks (operation:AsyncOperation) (operationId:String) (cancelledAt:ℕ) :
  Except AsyncOperationError Unit := do
 ensure (!isOver operation.state) (.operationTerminal operationId operation.state)
 validateTerminalTransitionTimestamp operation "cancelled_at" cancelledAt
 ensure (!(operation.expiresAtUnixMs.any fun t=>decide (t≤cancelledAt)))
  (.invalidOperation operationId "cancelled_at reaches or exceeds expires_at")

def expireChecks (operation:AsyncOperation) (operationId:String) (expiredAt:ℕ) :
  Except AsyncOperationError Unit := do
 ensure (!isOver operation.state) (.operationTerminal operationId operation.state)
 validateTerminalTransitionTimestamp operation "expired_at" expiredAt

/-- The common body of `cancel_operation` and `expire_operation`. -/
def finish (checks:AsyncOperation→Except AsyncOperationError Unit) (target:AsyncOperationState)
  (operationId:String) (occurredAt:ℕ) : Except AsyncOperationError Unit×AsyncOperationStore :=
 match store.operations[operationId]? with
 | none=>(.error (.operationNotFound operationId),store)
 | some operation=>
  match checks operation with
  | .error e=>(.error e,store)
  | .ok ()=>
   (.ok (),{ store with
    operations:=store.operations.insert operationId
     { operation with state:=target,completedAtUnixMs:=some occurredAt } }.pushEvent
    operationId (.stateChanged operationId operation.state target occurredAt))

def cancelOperation (operationId:String) (cancelledAt:ℕ) :=
 store.finish (fun operation=>cancelChecks operation operationId cancelledAt) .cancelled
  operationId cancelledAt

def expireOperation (operationId:String) (expiredAt:ℕ) :=
 store.finish (fun operation=>expireChecks operation operationId expiredAt) .expired
  operationId expiredAt

end AsyncOperationStore

end GraphBlocks.AsyncOperations
