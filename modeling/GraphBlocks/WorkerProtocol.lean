import GraphBlocks.SerdeDerive
import GraphBlocks.ToolCallModel

namespace GraphBlocks.WorkerProtocol
open Json CanonicalJson RustStd Serde StoredJson Tools

def workerProtocolVersion : UInt16 := 1

inductive WorkerState where
 | starting | warming | ready | saturated | draining | degraded | unhealthy | terminated
deriving DecidableEq

def WorkerState.variants : List (String×WorkerState) :=
 [("starting",.starting),("warming",.warming),("ready",.ready),("saturated",.saturated),
  ("draining",.draining),("degraded",.degraded),("unhealthy",.unhealthy),
  ("terminated",.terminated)]

def WorkerState.name : WorkerState→String
 | .starting=>"starting"
 | .warming=>"warming"
 | .ready=>"ready"
 | .saturated=>"saturated"
 | .draining=>"draining"
 | .degraded=>"degraded"
 | .unhealthy=>"unhealthy"
 | .terminated=>"terminated"

inductive WorkerProtocolMessageKind where
 | advertisement | admissionDecision | invokeRequest | invokeResult | drainPlan | error
deriving DecidableEq

def WorkerProtocolMessageKind.variants : List (String×WorkerProtocolMessageKind) :=
 [("advertisement",.advertisement),("admission_decision",.admissionDecision),
  ("invoke_request",.invokeRequest),("invoke_result",.invokeResult),
  ("drain_plan",.drainPlan),("error",.error)]

def WorkerProtocolMessageKind.name : WorkerProtocolMessageKind→String
 | .advertisement=>"advertisement"
 | .admissionDecision=>"admission_decision"
 | .invokeRequest=>"invoke_request"
 | .invokeResult=>"invoke_result"
 | .drainPlan=>"drain_plan"
 | .error=>"error"

inductive WorkerDrainWorkloadKind where
 | onlineRequest | durableTask | realtimeSession

def WorkerDrainWorkloadKind.variants : List (String×WorkerDrainWorkloadKind) :=
 [("online_request",.onlineRequest),("durable_task",.durableTask),
  ("realtime_session",.realtimeSession)]

def WorkerDrainWorkloadKind.name : WorkerDrainWorkloadKind→String
 | .onlineRequest=>"online_request"
 | .durableTask=>"durable_task"
 | .realtimeSession=>"realtime_session"

inductive WorkerDrainDisposition where
 | finishInPlace | cancel | checkpoint | disconnectWithResumeToken

def WorkerDrainDisposition.variants : List (String×WorkerDrainDisposition) :=
 [("finish_in_place",.finishInPlace),("cancel",.cancel),("checkpoint",.checkpoint),
  ("disconnect_with_resume_token",.disconnectWithResumeToken)]

def WorkerDrainDisposition.name : WorkerDrainDisposition→String
 | .finishInPlace=>"finish_in_place"
 | .cancel=>"cancel"
 | .checkpoint=>"checkpoint"
 | .disconnectWithResumeToken=>"disconnect_with_resume_token"

structure BlockCapability where
 block:String

structure WorkerAdvertisement where
 protocolVersion:UInt16
 workerId:String
 targetId:String
 packageLockHash:String
 imageDigest:String
 supportedBlocks:List BlockCapability
 state:WorkerState

structure WorkerAdmissionDecision where
 admitted:Bool
 workerId:String
 targetId:String
 protocolVersion:UInt16
 packageLockHash:String
 state:WorkerState
 reasonCodes:List String
 requiredBlock:Option String

structure WorkerInvocationContext where
 releaseId:String
 deploymentRevisionId:String
 traceId:Option String
 parentSpanId:Option String
 policySnapshotId:Option String
 policySnapshotDigest:Option String
 budgetPermitId:Option String
 budgetPermitDigest:Option String
 attributes:StringMap String

structure WorkerInvokeRequest where
 invocationId:String
 runId:String
 nodeId:String
 nodeAttemptId:String
 leaseEpoch:UInt64
 block:String
 context:WorkerInvocationContext
 inputs:JsonValue
 config:JsonValue

structure WorkerInvokeResult where
 invocationId:String
 nodeAttemptId:String
 leaseEpoch:UInt64
 outputs:StringMap JsonValue

structure WorkerDrainDecision where
 workload:WorkerDrainWorkloadKind
 runId:String
 invocationId:String
 nodeAttemptId:String
 leaseEpoch:UInt64
 releaseId:String
 deploymentRevisionId:String
 disposition:WorkerDrainDisposition
 deadlineUnixMs:UInt64
 reason:String

structure WorkerDrainPlan where
 workerId:String
 targetId:String
 workerState:WorkerState
 admissionClosed:Bool
 drainStartedAtUnixMs:UInt64
 decisions:List WorkerDrainDecision

structure WorkerProtocolErrorPayload where
 code:String
 message:String
 retryable:Bool
 details:Option (StringMap JsonValue)

inductive WorkerProtocolMessagePayload where
 | advertisement (payload:WorkerAdvertisement)
 | admissionDecision (payload:WorkerAdmissionDecision)
 | invokeRequest (payload:WorkerInvokeRequest)
 | invokeResult (payload:WorkerInvokeResult)
 | drainPlan (payload:WorkerDrainPlan)
 | error (payload:WorkerProtocolErrorPayload)

def WorkerProtocolMessagePayload.kind : WorkerProtocolMessagePayload→WorkerProtocolMessageKind
 | .advertisement _=>.advertisement
 | .admissionDecision _=>.admissionDecision
 | .invokeRequest _=>.invokeRequest
 | .invokeResult _=>.invokeResult
 | .drainPlan _=>.drainPlan
 | .error _=>.error

structure WorkerProtocolMessage where
 protocolVersion:UInt16
 messageId:String
 kind:WorkerProtocolMessageKind
 sequence:UInt64
 correlationId:Option String
 causationId:Option String
 payload:WorkerProtocolMessagePayload

inductive WorkerProtocolError where
 | incompatibleVersion (expected actual:UInt16)
 | incompatiblePackageLock (expected actual:String)
 | emptyWorkerId
 | emptyTargetId
 | emptyPackageLockHash
 | emptyImageDigest
 | emptySupportedBlocks
 | emptyBlockCapability
 | missingRequiredBlock (requiredBlock:String)

inductive WorkerInvocationContextError where
 | emptyRequiredField (field:String)
 | emptyOptionalField (field:String)
 | missingPolicySnapshotDigest
 | missingPolicySnapshotId
 | missingBudgetPermitDigest
 | missingBudgetPermitId
 | missingTraceId
 | missingParentSpanId
 | emptyAttributeKey

inductive WorkerInvokeRequestError where
 | emptyField (field:String)
 | nonPositiveLeaseEpoch
 | invalidContext (source:WorkerInvocationContextError)
 | invalidJson (field:String)

inductive WorkerInvokeResultError where
 | emptyField (field:String)
 | nonPositiveLeaseEpoch
 | emptyOutputKey
 | invalidJson (field:String)

inductive WorkerDrainError where
 | emptyDecisionField (field:String)
 | nonPositiveLeaseEpoch
 | emptyPlanField (field:String)
 | workerStateNotDraining (state:WorkerState)
 | admissionOpen
 | duplicateDecisionInvocation (invocationId:String)
 | invalidDecision (index:ℕ) (source:WorkerDrainError)

inductive WorkerProtocolMessageError where
 | incompatibleVersion (expected actual:UInt16)
 | emptyMessageId
 | nonPositiveSequence
 | emptyCorrelationId
 | emptyCausationId
 | mismatchedCorrelationId (expected:String) (actual:Option String)
 | kindPayloadMismatch (kind payloadKind:WorkerProtocolMessageKind)
 | messageEncoding (source:CanonicalJsonError)
 | invalidAdvertisement (source:WorkerProtocolError)
 | invalidAdmissionDecision (field:String)
 | invalidInvokeRequest (source:WorkerInvokeRequestError)
 | invalidInvokeResult (source:WorkerInvokeResultError)
 | invalidDrainPlan (source:WorkerDrainError)
 | invalidErrorPayload (field:String)

structure WorkerAdmissionPolicy where
 protocolVersion:UInt16
 packageLockHash:Option String
 requiredBlock:Option String

def WorkerAdmissionPolicy.current : WorkerAdmissionPolicy := ⟨workerProtocolVersion,none,none⟩

def validateWorkerAdvertisementFields (policy:WorkerAdmissionPolicy)
  (advertisement:WorkerAdvertisement) : Except WorkerProtocolError Unit := do
 ensure (!isBlank advertisement.workerId) .emptyWorkerId
 ensure (!isBlank advertisement.targetId) .emptyTargetId
 ensure (!isBlank advertisement.packageLockHash) .emptyPackageLockHash
 ensure (!isBlank advertisement.imageDigest) .emptyImageDigest
 ensure (policy.packageLockHash.all (· == advertisement.packageLockHash))
  (.incompatiblePackageLock (policy.packageLockHash.getD "") advertisement.packageLockHash)
 ensure (!advertisement.supportedBlocks.isEmpty) .emptySupportedBlocks
 ensure (!advertisement.supportedBlocks.any fun capability=>isBlank capability.block)
  .emptyBlockCapability
 ensure (policy.requiredBlock.all fun block=>
   advertisement.supportedBlocks.any fun capability=>capability.block==block)
  (.missingRequiredBlock (policy.requiredBlock.getD ""))

def validateWorkerAdvertisement (policy:WorkerAdmissionPolicy)
  (advertisement:WorkerAdvertisement) : Except WorkerProtocolError Unit := do
 ensure (advertisement.protocolVersion==policy.protocolVersion)
  (.incompatibleVersion policy.protocolVersion advertisement.protocolVersion)
 validateWorkerAdvertisementFields policy advertisement

def admissible (state:WorkerState) : Bool := state == .ready||state == .saturated

def validateWorkerAdmissionDecision (decision:WorkerAdmissionDecision) :
  Except WorkerProtocolMessageError Unit := do
 requireFields .invalidAdmissionDecision
  [("worker_id",decision.workerId),("target_id",decision.targetId),
   ("package_lock_hash",decision.packageLockHash)]
 ensure (!decision.reasonCodes.any isBlank) (.invalidAdmissionDecision "reason_codes")
 ensure (decide decision.reasonCodes.Nodup) (.invalidAdmissionDecision "reason_codes")
 ensure (decision.admitted==decision.reasonCodes.isEmpty)
  (.invalidAdmissionDecision "reason_codes")
 ensure (!(decision.admitted&&decision.protocolVersion != workerProtocolVersion))
  (.invalidAdmissionDecision "protocol_version")
 ensure (!(decision.admitted && !admissible decision.state)) (.invalidAdmissionDecision "state")
 ensure (!decision.requiredBlock.any isBlank) (.invalidAdmissionDecision "required_block")

/-- Two optional fields that are given together or not at all. -/
def requireTogether {ε:Type} (first second:Option String) (missingSecond missingFirst:ε) :
  Except ε Unit := do
 ensure (!(first.isSome&&second.isNone)) missingSecond
 ensure (!(first.isNone&&second.isSome)) missingFirst

def WorkerInvocationContext.validate (self:WorkerInvocationContext) :
  Except WorkerInvocationContextError Unit := do
 requireFields .emptyRequiredField
  [("release_id",self.releaseId),("deployment_revision_id",self.deploymentRevisionId)]
 requireOptionalFields .emptyOptionalField
  [("trace_id",self.traceId),("parent_span_id",self.parentSpanId),
   ("policy_snapshot_id",self.policySnapshotId),
   ("policy_snapshot_digest",self.policySnapshotDigest),
   ("budget_permit_id",self.budgetPermitId),
   ("budget_permit_digest",self.budgetPermitDigest)]
 requireTogether self.traceId self.parentSpanId .missingParentSpanId .missingTraceId
 requireTogether self.policySnapshotId self.policySnapshotDigest .missingPolicySnapshotDigest
  .missingPolicySnapshotId
 requireTogether self.budgetPermitId self.budgetPermitDigest .missingBudgetPermitDigest
  .missingBudgetPermitId
 ensure (!self.attributes.toList.any fun e=>isBlank e.1) .emptyAttributeKey

def tooDeep (value:JsonValue) : Bool := !(validateCanonicalJsonDepth value.document).isOk

def WorkerInvokeRequest.validate (self:WorkerInvokeRequest) :
  Except WorkerInvokeRequestError Unit := do
 requireFields .emptyField
  [("invocation_id",self.invocationId),("run_id",self.runId),("node_id",self.nodeId),
   ("node_attempt_id",self.nodeAttemptId),("block",self.block)]
 ensure (self.leaseEpoch != 0) .nonPositiveLeaseEpoch
 self.context.validate.mapError .invalidContext
 ensure (!tooDeep self.inputs) (.invalidJson "inputs")
 ensure (!tooDeep self.config) (.invalidJson "config")

def WorkerInvokeResult.validate (self:WorkerInvokeResult) :
  Except WorkerInvokeResultError Unit := do
 requireFields .emptyField
  [("invocation_id",self.invocationId),("node_attempt_id",self.nodeAttemptId)]
 ensure (self.leaseEpoch != 0) .nonPositiveLeaseEpoch
 ensure (!self.outputs.toList.any fun e=>isBlank e.1) .emptyOutputKey
 match self.outputs.toList.find? fun e=>tooDeep e.2 with
 | some (field,_)=>.error (.invalidJson field)
 | none=>.ok ()

def WorkerDrainDecision.validate (self:WorkerDrainDecision) : Except WorkerDrainError Unit := do
 requireFields .emptyDecisionField
  [("run_id",self.runId),("invocation_id",self.invocationId),
   ("node_attempt_id",self.nodeAttemptId),("release_id",self.releaseId),
   ("deployment_revision_id",self.deploymentRevisionId),("reason",self.reason)]
 ensure (self.leaseEpoch != 0) .nonPositiveLeaseEpoch

/-- The loop over the decisions, with their indices and the invocations seen so far. -/
def validateDecisions : ℕ→List String→List WorkerDrainDecision→Except WorkerDrainError Unit
 | _, _, []=>.ok ()
 | index, invocationIds, decision::rest=>do
  decision.validate.mapError (.invalidDecision index)
  ensure (!invocationIds.contains decision.invocationId)
   (.duplicateDecisionInvocation decision.invocationId)
  validateDecisions (index+1) (decision.invocationId::invocationIds) rest

def WorkerDrainPlan.validate (self:WorkerDrainPlan) : Except WorkerDrainError Unit := do
 requireFields .emptyPlanField [("worker_id",self.workerId),("target_id",self.targetId)]
 ensure (self.workerState == .draining) (.workerStateNotDraining self.workerState)
 ensure self.admissionClosed .admissionOpen
 validateDecisions 0 [] self.decisions

def WorkerProtocolErrorPayload.validate (self:WorkerProtocolErrorPayload) :
  Except WorkerProtocolMessageError Unit := do
 requireFields .invalidErrorPayload [("code",self.code),("message",self.message)]
 ensure (!self.details.any fun details=>details.toList.any fun e=>isBlank e.1)
  (.invalidErrorPayload "details")
 ensure (!self.details.any fun details=>details.toList.any fun e=>tooDeep e.2)
  (.invalidErrorPayload "details")

def WorkerProtocolMessagePayload.validate :
  WorkerProtocolMessagePayload→Except WorkerProtocolMessageError Unit
 | .advertisement payload=>
  (validateWorkerAdvertisement WorkerAdmissionPolicy.current payload).mapError
   .invalidAdvertisement
 | .admissionDecision payload=>validateWorkerAdmissionDecision payload
 | .invokeRequest payload=>payload.validate.mapError .invalidInvokeRequest
 | .invokeResult payload=>payload.validate.mapError .invalidInvokeResult
 | .drainPlan payload=>payload.validate.mapError .invalidDrainPlan
 | .error payload=>payload.validate

def BlockCapability.fields : List (String×(BlockCapability→Value)) :=
 [("block",fun self=>.string self.block)]

def BlockCapability.toValue : BlockCapability→Value := structValue BlockCapability.fields

def WorkerAdvertisement.fields : List (String×(WorkerAdvertisement→Value)) :=
 [("protocolVersion",fun self=>u16Value self.protocolVersion),
  ("workerId",fun self=>.string self.workerId),
  ("targetId",fun self=>.string self.targetId),
  ("packageLockHash",fun self=>.string self.packageLockHash),
  ("imageDigest",fun self=>.string self.imageDigest),
  ("supportedBlocks",fun self=>.array (self.supportedBlocks.map BlockCapability.toValue)),
  ("state",fun self=>.string self.state.name)]

def WorkerAdmissionDecision.fields : List (String×(WorkerAdmissionDecision→Value)) :=
 [("admitted",fun self=>.bool self.admitted),("workerId",fun self=>.string self.workerId),
  ("targetId",fun self=>.string self.targetId),
  ("protocolVersion",fun self=>u16Value self.protocolVersion),
  ("packageLockHash",fun self=>.string self.packageLockHash),
  ("state",fun self=>.string self.state.name),
  ("reasonCodes",fun self=>.array (self.reasonCodes.map .string)),
  ("requiredBlock",fun self=>optionalText self.requiredBlock)]

def WorkerInvocationContext.fields : List (String×(WorkerInvocationContext→Value)) :=
 [("releaseId",fun self=>.string self.releaseId),
  ("deploymentRevisionId",fun self=>.string self.deploymentRevisionId),
  ("traceId",fun self=>optionalText self.traceId),
  ("parentSpanId",fun self=>optionalText self.parentSpanId),
  ("policySnapshotId",fun self=>optionalText self.policySnapshotId),
  ("policySnapshotDigest",fun self=>optionalText self.policySnapshotDigest),
  ("budgetPermitId",fun self=>optionalText self.budgetPermitId),
  ("budgetPermitDigest",fun self=>optionalText self.budgetPermitDigest),
  ("attributes",fun self=>stringMapValue self.attributes)]

def WorkerInvocationContext.toValue : WorkerInvocationContext→Value :=
 structValue WorkerInvocationContext.fields

def WorkerInvokeRequest.fields : List (String×(WorkerInvokeRequest→Value)) :=
 [("invocationId",fun self=>.string self.invocationId),("runId",fun self=>.string self.runId),
  ("nodeId",fun self=>.string self.nodeId),
  ("nodeAttemptId",fun self=>.string self.nodeAttemptId),
  ("leaseEpoch",fun self=>u64Value self.leaseEpoch),
  ("block",fun self=>.string self.block),
  ("context",fun self=>self.context.toValue),
  ("inputs",fun self=>self.inputs.document),
  ("config",fun self=>self.config.document)]

def WorkerInvokeResult.fields : List (String×(WorkerInvokeResult→Value)) :=
 [("invocationId",fun self=>.string self.invocationId),
  ("nodeAttemptId",fun self=>.string self.nodeAttemptId),
  ("leaseEpoch",fun self=>u64Value self.leaseEpoch),
  ("outputs",fun self=>mapValue JsonValue.document self.outputs)]

def WorkerDrainDecision.fields : List (String×(WorkerDrainDecision→Value)) :=
 [("workload",fun self=>.string self.workload.name),("runId",fun self=>.string self.runId),
  ("invocationId",fun self=>.string self.invocationId),
  ("nodeAttemptId",fun self=>.string self.nodeAttemptId),
  ("leaseEpoch",fun self=>u64Value self.leaseEpoch),
  ("releaseId",fun self=>.string self.releaseId),
  ("deploymentRevisionId",fun self=>.string self.deploymentRevisionId),
  ("disposition",fun self=>.string self.disposition.name),
  ("deadlineUnixMs",fun self=>u64Value self.deadlineUnixMs),
  ("reason",fun self=>.string self.reason)]

def WorkerDrainDecision.toValue : WorkerDrainDecision→Value :=
 structValue WorkerDrainDecision.fields

def WorkerDrainPlan.fields : List (String×(WorkerDrainPlan→Value)) :=
 [("workerId",fun self=>.string self.workerId),("targetId",fun self=>.string self.targetId),
  ("workerState",fun self=>.string self.workerState.name),
  ("admissionClosed",fun self=>.bool self.admissionClosed),
  ("drainStartedAtUnixMs",fun self=>u64Value self.drainStartedAtUnixMs),
  ("decisions",fun self=>.array (self.decisions.map WorkerDrainDecision.toValue))]

def WorkerProtocolErrorPayload.fields : List (String×(WorkerProtocolErrorPayload→Value)) :=
 [("code",fun self=>.string self.code),("message",fun self=>.string self.message),
  ("retryable",fun self=>.bool self.retryable)]

/-- `#[serde(skip_serializing_if = "Option::is_none")]` on the details. -/
def WorkerProtocolErrorPayload.members (self:WorkerProtocolErrorPayload) : Members :=
 match self.details with
 | none=>writeFields WorkerProtocolErrorPayload.fields self
 | some details=>writeFields WorkerProtocolErrorPayload.fields self ++
   [("details",mapValue JsonValue.document details)]

def WorkerProtocolMessagePayload.members : WorkerProtocolMessagePayload→Members
 | .advertisement payload=>writeFields WorkerAdvertisement.fields payload
 | .admissionDecision payload=>writeFields WorkerAdmissionDecision.fields payload
 | .invokeRequest payload=>writeFields WorkerInvokeRequest.fields payload
 | .invokeResult payload=>writeFields WorkerInvokeResult.fields payload
 | .drainPlan payload=>writeFields WorkerDrainPlan.fields payload
 | .error payload=>payload.members

def WorkerProtocolMessagePayload.toValue (self:WorkerProtocolMessagePayload) : Value :=
 .object (sortMembers self.members)

def WorkerProtocolMessage.fields : List (String×(WorkerProtocolMessage→Value)) :=
 [("protocolVersion",fun self=>u16Value self.protocolVersion),
  ("messageId",fun self=>.string self.messageId),
  ("kind",fun self=>.string self.kind.name),
  ("sequence",fun self=>u64Value self.sequence),
  ("correlationId",fun self=>optionalText self.correlationId),
  ("causationId",fun self=>optionalText self.causationId),
  ("payload",fun self=>self.payload.toValue)]

def WorkerProtocolMessage.toWireValueUnchecked : WorkerProtocolMessage→Value :=
 structValue WorkerProtocolMessage.fields

def expectedCorrelationId : WorkerProtocolMessagePayload→Option String
 | .invokeRequest request=>some request.invocationId
 | .invokeResult result=>some result.invocationId
 | _=>none

def WorkerProtocolMessage.validate (self:WorkerProtocolMessage) :
  Except WorkerProtocolMessageError Unit := do
 ensure (self.protocolVersion==workerProtocolVersion)
  (.incompatibleVersion workerProtocolVersion self.protocolVersion)
 ensure (!isBlank self.messageId) .emptyMessageId
 ensure (self.sequence != 0) .nonPositiveSequence
 ensure (!self.correlationId.any isBlank) .emptyCorrelationId
 ensure (!self.causationId.any isBlank) .emptyCausationId
 ensure (self.kind==self.payload.kind) (.kindPayloadMismatch self.kind self.payload.kind)
 self.payload.validate
 ensure ((expectedCorrelationId self.payload).all fun expected=>self.correlationId==some expected)
  (.mismatchedCorrelationId ((expectedCorrelationId self.payload).getD "") self.correlationId)
 (validateCanonicalJsonDepth self.toWireValueUnchecked).mapError .messageEncoding

/-- `Serialize`: the fields of the envelope in their order. -/
def WorkerProtocolMessage.serialize (d:StringDisplay) (self:WorkerProtocolMessage) :
  Except WorkerProtocolMessageError (List Char) := do
 self.validate
 return compact d (.object (writeFields WorkerProtocolMessage.fields self))

section
variable {d:StringDisplay} (serde:SerdeJson d)

def BlockCapability.read (v:Value) : Option BlockCapability := do
 let source ← structSource ["block"] v
 return ⟨← source.required "block" asString⟩

def WorkerAdvertisement.read (v:Value) : Option WorkerAdvertisement := do
 let source ← structSource (WorkerAdvertisement.fields.map Prod.fst) v
 let protocolVersion ← source.required "protocolVersion" (readU16 serde)
 let workerId ← source.required "workerId" asString
 let targetId ← source.required "targetId" asString
 let packageLockHash ← source.required "packageLockHash" asString
 let imageDigest ← source.required "imageDigest" asString
 let supportedBlocks ← source.required "supportedBlocks" (readList BlockCapability.read)
 let state ← source.required "state" (readVariant WorkerState.variants)
 return { protocolVersion,workerId,targetId,packageLockHash,imageDigest,supportedBlocks,state }

def WorkerAdmissionDecision.read (v:Value) : Option WorkerAdmissionDecision := do
 let source ← structSource (WorkerAdmissionDecision.fields.map Prod.fst) v
 let admitted ← source.required "admitted" Value.asBool
 let workerId ← source.required "workerId" asString
 let targetId ← source.required "targetId" asString
 let protocolVersion ← source.required "protocolVersion" (readU16 serde)
 let packageLockHash ← source.required "packageLockHash" asString
 let state ← source.required "state" (readVariant WorkerState.variants)
 let reasonCodes ← source.required "reasonCodes" (readList asString)
 let requiredBlock ← source.optional "requiredBlock" asString
 return { admitted,workerId,targetId,protocolVersion,packageLockHash,state,reasonCodes,
          requiredBlock }

def WorkerInvocationContext.read (v:Value) : Option WorkerInvocationContext := do
 let source ← structSource (WorkerInvocationContext.fields.map Prod.fst) v
 let releaseId ← source.required "releaseId" asString
 let deploymentRevisionId ← source.required "deploymentRevisionId" asString
 let traceId ← source.optional "traceId" asString
 let parentSpanId ← source.optional "parentSpanId" asString
 let policySnapshotId ← source.optional "policySnapshotId" asString
 let policySnapshotDigest ← source.optional "policySnapshotDigest" asString
 let budgetPermitId ← source.optional "budgetPermitId" asString
 let budgetPermitDigest ← source.optional "budgetPermitDigest" asString
 let attributes ← source.required "attributes" (readMap asString)
 return { releaseId,deploymentRevisionId,traceId,parentSpanId,policySnapshotId,
          policySnapshotDigest,budgetPermitId,budgetPermitDigest,attributes }

def WorkerInvokeRequest.read (v:Value) : Option WorkerInvokeRequest := do
 let source ← structSource (WorkerInvokeRequest.fields.map Prod.fst) v
 let invocationId ← source.required "invocationId" asString
 let runId ← source.required "runId" asString
 let nodeId ← source.required "nodeId" asString
 let nodeAttemptId ← source.required "nodeAttemptId" asString
 let leaseEpoch ← source.required "leaseEpoch" (readU64 serde)
 let block ← source.required "block" asString
 let context ← source.required "context" WorkerInvocationContext.read
 let inputs ← source.required "inputs" JsonValue.read
 let config ← source.required "config" JsonValue.read
 return { invocationId,runId,nodeId,nodeAttemptId,leaseEpoch,block,context,inputs,config }

def WorkerInvokeResult.read (v:Value) : Option WorkerInvokeResult := do
 let source ← structSource (WorkerInvokeResult.fields.map Prod.fst) v
 let invocationId ← source.required "invocationId" asString
 let nodeAttemptId ← source.required "nodeAttemptId" asString
 let leaseEpoch ← source.required "leaseEpoch" (readU64 serde)
 let outputs ← source.required "outputs" (readMap JsonValue.read)
 return { invocationId,nodeAttemptId,leaseEpoch,outputs }

def WorkerDrainDecision.read (v:Value) : Option WorkerDrainDecision := do
 let source ← structSource (WorkerDrainDecision.fields.map Prod.fst) v
 let workload ← source.required "workload" (readVariant WorkerDrainWorkloadKind.variants)
 let runId ← source.required "runId" asString
 let invocationId ← source.required "invocationId" asString
 let nodeAttemptId ← source.required "nodeAttemptId" asString
 let leaseEpoch ← source.required "leaseEpoch" (readU64 serde)
 let releaseId ← source.required "releaseId" asString
 let deploymentRevisionId ← source.required "deploymentRevisionId" asString
 let disposition ← source.required "disposition" (readVariant WorkerDrainDisposition.variants)
 let deadlineUnixMs ← source.required "deadlineUnixMs" (readU64 serde)
 let reason ← source.required "reason" asString
 return { workload,runId,invocationId,nodeAttemptId,leaseEpoch,releaseId,
          deploymentRevisionId,disposition,deadlineUnixMs,reason }

def WorkerDrainPlan.read (v:Value) : Option WorkerDrainPlan := do
 let source ← structSource (WorkerDrainPlan.fields.map Prod.fst) v
 let workerId ← source.required "workerId" asString
 let targetId ← source.required "targetId" asString
 let workerState ← source.defaulted "workerState" (readVariant WorkerState.variants) .draining
 let admissionClosed ← source.defaulted "admissionClosed" Value.asBool true
 let drainStartedAtUnixMs ← source.required "drainStartedAtUnixMs" (readU64 serde)
 let decisions ← source.defaulted "decisions" (readList (WorkerDrainDecision.read serde)) []
 return { workerId,targetId,workerState,admissionClosed,drainStartedAtUnixMs,decisions }

def WorkerProtocolErrorPayload.read (v:Value) : Option WorkerProtocolErrorPayload := do
 let source ← structSource ["code","message","retryable","details"] v
 let code ← source.required "code" asString
 let message ← source.required "message" asString
 let retryable ← source.defaulted "retryable" Value.asBool false
 let details ← source.defaulted "details" (readOption (readMap JsonValue.read)) none
 return { code,message,retryable,details }

/-- `#[serde(untagged)]`: the first variant that can be read. -/
def WorkerProtocolMessagePayload.read (v:Value) : Option WorkerProtocolMessagePayload :=
 (((((WorkerAdvertisement.read serde v).map .advertisement <|>
  (WorkerAdmissionDecision.read serde v).map .admissionDecision) <|>
  (WorkerInvokeRequest.read serde v).map .invokeRequest) <|>
  (WorkerInvokeResult.read serde v).map .invokeResult) <|>
  (WorkerDrainPlan.read serde v).map .drainPlan) <|>
  (WorkerProtocolErrorPayload.read v).map .error

def WorkerProtocolMessage.read (v:Value) : Option WorkerProtocolMessage := do
 let source ← structSource (WorkerProtocolMessage.fields.map Prod.fst) v
 let protocolVersion ← source.required "protocolVersion" (readU16 serde)
 let messageId ← source.required "messageId" asString
 let kind ← source.required "kind" (readVariant WorkerProtocolMessageKind.variants)
 let sequence ← source.required "sequence" (readU64 serde)
 let correlationId ← source.defaulted "correlationId" (readOption asString) none
 let causationId ← source.defaulted "causationId" (readOption asString) none
 let payload ← source.required "payload" (WorkerProtocolMessagePayload.read serde)
 return { protocolVersion,messageId,kind,sequence,correlationId,causationId,payload }

inductive WireError where
 | json (message:String)
 | data
 | invalid (source:WorkerProtocolMessageError)

def WorkerProtocolMessage.deserialize (text:List Char) : Except WireError WorkerProtocolMessage :=
 match serde.read text with
 | .error failure=>.error (.json failure.message)
 | .ok document=>
  match WorkerProtocolMessage.read serde document with
  | none=>.error .data
  | some message=>do
   message.validate.mapError .invalid
   return message
end

end GraphBlocks.WorkerProtocol
