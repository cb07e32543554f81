import GraphBlocks.WorkerProtocol

namespace GraphBlocks.WorkerProtocol
open Json CanonicalJson RustStd Serde StoredJson Tools List Option

lemma readVariant_workerState(state:WorkerState):
  readVariant WorkerState.variants (.string state.name)=some state:=by
 cases state <;>rfl

lemma readVariant_kind(kind:WorkerProtocolMessageKind):
  readVariant WorkerProtocolMessageKind.variants (.string kind.name)=some kind:=by
 cases kind <;>rfl

lemma readVariant_workload(workload:WorkerDrainWorkloadKind):
  readVariant WorkerDrainWorkloadKind.variants (.string workload.name)=some workload:=by
 cases workload <;>rfl

lemma readVariant_disposition(disposition:WorkerDrainDisposition):
  readVariant WorkerDrainDisposition.variants (.string disposition.name)=some disposition:=by
 cases disposition <;>rfl

section
variable {d:StringDisplay} (serde:SerdeJson d)

lemma readCapability_toValue(capability:BlockCapability):
  BlockCapability.read capability.toValue=some capability:=by
 cases capability
 rfl

lemma readAdvertisement_structValue(a:WorkerAdvertisement):
  WorkerAdvertisement.read serde (structValue WorkerAdvertisement.fields a)=some a:=by
 have hnames:(WorkerAdvertisement.fields.map Prod.fst).Nodup:=by decide
 have hkeys:=nodup_writeFields hnames a
 have hversion:(written (writeFields WorkerAdvertisement.fields a)).required "protocolVersion"
   (readU16 serde)=some a.protocolVersion:=
  required_written hkeys rfl (readU16_u16Value serde _)
 have hblocks:(written (writeFields WorkerAdvertisement.fields a)).required "supportedBlocks"
   (readList BlockCapability.read)=some a.supportedBlocks:=
  required_written hkeys rfl (readList_array readCapability_toValue _)
 have hstate:(written (writeFields WorkerAdvertisement.fields a)).required "state"
   (readVariant WorkerState.variants)=some a.state:=
  required_written hkeys rfl (readVariant_workerState _)
 have hworker:=requiredText_written hkeys "workerId" a.workerId rfl
 have htarget:=requiredText_written hkeys "targetId" a.targetId rfl
 have hlock:=requiredText_written hkeys "packageLockHash" a.packageLockHash rfl
 have himage:=requiredText_written hkeys "imageDigest" a.imageDigest rfl
 simp only [WorkerAdvertisement.read,structSource_structValue hnames,hversion,hworker,htarget,
  hlock,himage,hblocks,hstate,bind_eq_bind,bind_some]
 rfl

lemma readDecision_structValue(a:WorkerAdmissionDecision):
  WorkerAdmissionDecision.read serde (structValue WorkerAdmissionDecision.fields a)=some a:=by
 have hnames:(WorkerAdmissionDecision.fields.map Prod.fst).Nodup:=by decide
 have hkeys:=nodup_writeFields hnames a
 have hadmitted:(written (writeFields WorkerAdmissionDecision.fields a)).required "admitted"
   Value.asBool=some a.admitted:=
  required_written hkeys rfl rfl
 have hversion:(written (writeFields WorkerAdmissionDecision.fields a)).required
   "protocolVersion" (readU16 serde)=some a.protocolVersion:=
  required_written hkeys rfl (readU16_u16Value serde _)
 have hstate:(written (writeFields WorkerAdmissionDecision.fields a)).required "state"
   (readVariant WorkerState.variants)=some a.state:=
  required_written hkeys rfl (readVariant_workerState _)
 have hreasons:(written (writeFields WorkerAdmissionDecision.fields a)).required "reasonCodes"
   (readList asString)=some a.reasonCodes:=
  required_written hkeys rfl (readList_array asString_string _)
 have hworker:=requiredText_written hkeys "workerId" a.workerId rfl
 have htarget:=requiredText_written hkeys "targetId" a.targetId rfl
 have hlock:=requiredText_written hkeys "packageLockHash" a.packageLockHash rfl
 have hblock:=optionalText_written hkeys "requiredBlock" a.requiredBlock rfl
 simp only [WorkerAdmissionDecision.read,structSource_structValue hnames,hadmitted,hworker,
  htarget,hversion,hlock,hstate,hreasons,hblock,bind_eq_bind,bind_some]
 rfl

lemma readContext_toValue(a:WorkerInvocationContext):
  WorkerInvocationContext.read a.toValue=some a:=by
 have hnames:(WorkerInvocationContext.fields.map Prod.fst).Nodup:=by decide
 have hkeys:=nodup_writeFields hnames a
 have hrelease:=requiredText_written hkeys "releaseId" a.releaseId rfl
 have hrevision:=requiredText_written hkeys "deploymentRevisionId" a.deploymentRevisionId rfl
 have htrace:=optionalText_written hkeys "traceId" a.traceId rfl
 have hspan:=optionalText_written hkeys "parentSpanId" a.parentSpanId rfl
 have hsnapshot:=optionalText_written hkeys "policySnapshotId" a.policySnapshotId rfl
 have hdigest:=optionalText_written hkeys "policySnapshotDigest" a.policySnapshotDigest rfl
 have hpermit:=optionalText_written hkeys "budgetPermitId" a.budgetPermitId rfl
 have hpermitDigest:=optionalText_written hkeys "budgetPermitDigest" a.budgetPermitDigest rfl
 have hattributes:(written (writeFields WorkerInvocationContext.fields a)).required
   "attributes" (readMap asString)=some a.attributes:=
  required_written hkeys rfl (readMap_mapValue asString_string _)
 simp only [WorkerInvocationContext.read,WorkerInvocationContext.toValue,
  structSource_structValue hnames,hrelease,hrevision,htrace,hspan,hsnapshot,hdigest,
  hpermit,hpermitDigest,hattributes,bind_eq_bind,bind_some]
 rfl

lemma readRequest_structValue(a:WorkerInvokeRequest):
  WorkerInvokeRequest.read serde (structValue WorkerInvokeRequest.fields a)=some a:=by
 have hnames:(WorkerInvokeRequest.fields.map Prod.fst).Nodup:=by decide
 have hkeys:=nodup_writeFields hnames a
 have hinvocation:=requiredText_written hkeys "invocationId" a.invocationId rfl
 have hrun:=requiredText_written hkeys "runId" a.runId rfl
 have hnode:=requiredText_written hkeys "nodeId" a.nodeId rfl
 have hattempt:=requiredText_written hkeys "nodeAttemptId" a.nodeAttemptId rfl
 have hblock:=requiredText_written hkeys "block" a.block rfl
 have hepoch:(written (writeFields WorkerInvokeRequest.fields a)).required "leaseEpoch"
   (readU64 serde)=some a.leaseEpoch:=
  required_written hkeys rfl (readU64_u64Value serde _)
 have hcontext:(written (writeFields WorkerInvokeRequest.fields a)).required "context"
   WorkerInvocationContext.read=some a.context:=
  required_written hkeys rfl (readContext_toValue _)
 have hinputs:(written (writeFields WorkerInvokeRequest.fields a)).required "inputs"
   JsonValue.read=some a.inputs:=
  required_written hkeys rfl (JsonValue.read_document _)
 have hconfig:(written (writeFields WorkerInvokeRequest.fields a)).required "config"
   JsonValue.read=some a.config:=
  required_written hkeys rfl (JsonValue.read_document _)
 simp only [WorkerInvokeRequest.read,structSource_structValue hnames,hinvocation,hrun,hnode,
  hattempt,hepoch,hblock,hcontext,hinputs,hconfig,bind_eq_bind,bind_some]
 rfl

lemma readResult_structValue(a:WorkerInvokeResult):
  WorkerInvokeResult.read serde (structValue WorkerInvokeResult.fields a)=some a:=by
 have hnames:(WorkerInvokeResult.fields.map Prod.fst).Nodup:=by decide
 have hkeys:=nodup_writeFields hnames a
 have hinvocation:=requiredText_written hkeys "invocationId" a.invocationId rfl
 have hattempt:=requiredText_written hkeys "nodeAttemptId" a.nodeAttemptId rfl
 have hepoch:(written (writeFields WorkerInvokeResult.fields a)).required "leaseEpoch"
   (readU64 serde)=some a.leaseEpoch:=
  required_written hkeys rfl (readU64_u64Value serde _)
 have houtputs:(written (writeFields WorkerInvokeResult.fields a)).required "outputs"
   (readMap JsonValue.read)=some a.outputs:=
  required_written hkeys rfl (readMap_mapValue JsonValue.read_document _)
 simp only [WorkerInvokeResult.read,structSource_structValue hnames,hinvocation,hattempt,
  hepoch,houtputs,bind_eq_bind,bind_some]
 rfl

lemma readDrainDecision_toValue(a:WorkerDrainDecision):
  WorkerDrainDecision.read serde a.toValue=some a:=by
 have hnames:(WorkerDrainDecision.fields.map Prod.fst).Nodup:=by decide
 have hkeys:=nodup_writeFields hnames a
 have hworkload:(written (writeFields WorkerDrainDecision.fields a)).required "workload"
   (readVariant WorkerDrainWorkloadKind.variants)=some a.workload:=
  required_written hkeys rfl (readVariant_workload _)
 have hrun:=requiredText_written hkeys "runId" a.runId rfl
 have hinvocation:=requiredText_written hkeys "invocationId" a.invocationId rfl
 have hattempt:=requiredText_written hkeys "nodeAttemptId" a.nodeAttemptId rfl
 have hepoch:(written (writeFields WorkerDrainDecision.fields a)).required "leaseEpoch"
   (readU64 serde)=some a.leaseEpoch:=
  required_written hkeys rfl (readU64_u64Value serde _)
 have hrelease:=requiredText_written hkeys "releaseId" a.releaseId rfl
 have hrevision:=requiredText_written hkeys "deploymentRevisionId" a.deploymentRevisionId rfl
 have hdisposition:(written (writeFields WorkerDrainDecision.fields a)).required "disposition"
   (readVariant WorkerDrainDisposition.variants)=some a.disposition:=
  required_written hkeys rfl (readVariant_disposition _)
 have hdeadline:(written (writeFields WorkerDrainDecision.fields a)).required "deadlineUnixMs"
   (readU64 serde)=some a.deadlineUnixMs:=
  required_written hkeys rfl (readU64_u64Value serde _)
 have hreason:=requiredText_written hkeys "reason" a.reason rfl
 simp only [WorkerDrainDecision.read,WorkerDrainDecision.toValue,
  structSource_structValue hnames,hworkload,hrun,hinvocation,hattempt,hepoch,hrelease,
  hrevision,hdisposition,hdeadline,hreason,bind_eq_bind,bind_some]
 rfl

lemma readPlan_structValue(a:WorkerDrainPlan):
  WorkerDrainPlan.read serde (structValue WorkerDrainPlan.fields a)=some a:=by
 have hnames:(WorkerDrainPlan.fields.map Prod.fst).Nodup:=by decide
 have hkeys:=nodup_writeFields hnames a
 have hworker:=requiredText_written hkeys "workerId" a.workerId rfl
 have htarget:=requiredText_written hkeys "targetId" a.targetId rfl
 have hstate:(written (writeFields WorkerDrainPlan.fields a)).defaulted "workerState"
   (readVariant WorkerState.variants) .draining=some a.workerState:=
  defaulted_written hkeys rfl (readVariant_workerState _)
 have hclosed:(written (writeFields WorkerDrainPlan.fields a)).defaulted "admissionClosed"
   Value.asBool true=some a.admissionClosed:=
  defaulted_written hkeys rfl rfl
 have hstarted:(written (writeFields WorkerDrainPlan.fields a)).required
   "drainStartedAtUnixMs" (readU64 serde)=some a.drainStartedAtUnixMs:=
  required_written hkeys rfl (readU64_u64Value serde _)
 have hdecisions:(written (writeFields WorkerDrainPlan.fields a)).defaulted "decisions"
   (readList (WorkerDrainDecision.read serde)) []=some a.decisions:=
  defaulted_written hkeys rfl (readList_array (readDrainDecision_toValue serde) _)
 simp only [WorkerDrainPlan.read,structSource_structValue hnames,hworker,htarget,hstate,
  hclosed,hstarted,hdecisions,bind_eq_bind,bind_some]
 rfl

lemma readError_members(a:WorkerProtocolErrorPayload):
  WorkerProtocolErrorPayload.read (.object (sortMembers a.members))=some a:=by
 obtain ⟨code,message,retryable,details⟩:=a
 cases details with
 | none=>
  set a:WorkerProtocolErrorPayload:=⟨code,message,retryable,none⟩ with ha
  have hkeys:(keys a.members).Nodup:=nodup_writeFields (by decide) a
  have hsource:structSource ["code","message","retryable","details"]
    (.object (sortMembers a.members))=some (written a.members):=by
   refine structSource_written ?_ hkeys
   change ∀key∈["code","message","retryable"],key∈["code","message","retryable","details"]
   decide
  have hcode:=requiredText_written hkeys "code" code rfl
  have hmessage:=requiredText_written hkeys "message" message rfl
  have hretryable:(written a.members).defaulted "retryable" Value.asBool false =
    some retryable:=defaulted_written hkeys rfl rfl
  have hdetails:(written a.members).defaulted "details" (readOption (readMap JsonValue.read))
    none=some none:=defaulted_missing hkeys rfl
  simp only [WorkerProtocolErrorPayload.read,hsource,hcode,hmessage,hretryable,hdetails,
   bind_eq_bind,bind_some]
  rfl
 | some details=>
  set a:WorkerProtocolErrorPayload:=⟨code,message,retryable,some details⟩ with ha
  have hkeys:(keys a.members).Nodup:=by
   change ["code","message","retryable","details"].Nodup
   decide
  have hsource:structSource ["code","message","retryable","details"]
    (.object (sortMembers a.members))=some (written a.members):=
   structSource_written (fun _ h=>h) hkeys
  have hcode:=requiredText_written hkeys "code" code rfl
  have hmessage:=requiredText_written hkeys "message" message rfl
  have hretryable:(written a.members).defaulted "retryable" Value.asBool false =
    some retryable:=defaulted_written hkeys rfl rfl
  have hread:readOption (readMap JsonValue.read) (mapValue JsonValue.document details) =
    some (some details):=
   congrArg (Option.map some) (readMap_mapValue JsonValue.read_document details)
  have hdetails:(written a.members).defaulted "details" (readOption (readMap JsonValue.read))
    none=some (some details):=defaulted_written hkeys rfl hread
  simp only [WorkerProtocolErrorPayload.read,hsource,hcode,hmessage,hretryable,hdetails,
   bind_eq_bind,bind_some]
  rfl
end

section
variable {d:StringDisplay} (serde:SerdeJson d) {v:Value}

lemma readAdvertisement_refused(h:structSource (WorkerAdvertisement.fields.map Prod.fst) v=none):
  WorkerAdvertisement.read serde v=none:=by
 rw [WorkerAdvertisement.read,h]
 rfl

lemma readDecision_refused(h:structSource (WorkerAdmissionDecision.fields.map Prod.fst) v=none):
  WorkerAdmissionDecision.read serde v=none:=by
 rw [WorkerAdmissionDecision.read,h]
 rfl

lemma readRequest_refused(h:structSource (WorkerInvokeRequest.fields.map Prod.fst) v=none):
  WorkerInvokeRequest.read serde v=none:=by
 rw [WorkerInvokeRequest.read,h]
 rfl

lemma readResult_refused(h:structSource (WorkerInvokeResult.fields.map Prod.fst) v=none):
  WorkerInvokeResult.read serde v=none:=by
 rw [WorkerInvokeResult.read,h]
 rfl

lemma readPlan_refused(h:structSource (WorkerDrainPlan.fields.map Prod.fst) v=none):
  WorkerDrainPlan.read serde v=none:=by
 rw [WorkerDrainPlan.read,h]
 rfl

/-- The field by which a payload is told from the payloads that are tried before it. -/
def telltale : WorkerProtocolMessagePayload→String
 | .advertisement _=>"imageDigest"
 | .admissionDecision _=>"admitted"
 | .invokeRequest _=>"inputs"
 | .invokeResult _=>"outputs"
 | .drainPlan _=>"workerState"
 | .error _=>"code"

lemma telltale_written(payload:WorkerProtocolMessagePayload):
  telltale payload∈keys payload.members:=by
 cases payload with
 | advertisement a=>
  rw [WorkerProtocolMessagePayload.members,keys_writeFields,telltale]
  decide
 | admissionDecision a=>
  rw [WorkerProtocolMessagePayload.members,keys_writeFields,telltale]
  decide
 | invokeRequest a=>
  rw [WorkerProtocolMessagePayload.members,keys_writeFields,telltale]
  decide
 | invokeResult a=>
  rw [WorkerProtocolMessagePayload.members,keys_writeFields,telltale]
  decide
 | drainPlan a=>
  rw [WorkerProtocolMessagePayload.members,keys_writeFields,telltale]
  decide
 | error a=>
  rw [WorkerProtocolMessagePayload.members,telltale,WorkerProtocolErrorPayload.members]
  split <;>exact mem_cons_self

lemma refused{names:List String}(payload:WorkerProtocolMessagePayload)
  (h:telltale payload∉names):structSource names payload.toValue=none:=
 structSource_unknown _ (telltale_written payload) h

lemma readPayload_toValue(payload:WorkerProtocolMessagePayload):
  WorkerProtocolMessagePayload.read serde payload.toValue=some payload:=by
 unfold WorkerProtocolMessagePayload.read
 cases hpayload:payload with
 | advertisement a=>
  have hread:WorkerAdvertisement.read serde
    (WorkerProtocolMessagePayload.toValue (.advertisement a))=some a:=
   readAdvertisement_structValue serde a
  rw [hread]
  rfl
 | admissionDecision a=>
  have hread:WorkerAdmissionDecision.read serde
    (WorkerProtocolMessagePayload.toValue (.admissionDecision a))=some a:=
   readDecision_structValue serde a
  rw [readAdvertisement_refused serde (refused _ (by rw [telltale];decide)),hread]
  rfl
 | invokeRequest a=>
  have hread:WorkerInvokeRequest.read serde
    (WorkerProtocolMessagePayload.toValue (.invokeRequest a))=some a:=
   readRequest_structValue serde a
  rw [readAdvertisement_refused serde (refused _ (by rw [telltale];decide)),
   readDecision_refused serde (refused _ (by rw [telltale];decide)),hread]
  rfl
 | invokeResult a=>
  have hread:WorkerInvokeResult.read serde
    (WorkerProtocolMessagePayload.toValue (.invokeResult a))=some a:=
   readResult_structValue serde a
  rw [readAdvertisement_refused serde (refused _ (by rw [telltale];decide)),
   readDecision_refused serde (refused _ (by rw [telltale];decide)),
   readRequest_refused serde (refused _ (by rw [telltale];decide)),hread]
  rfl
 | drainPlan a=>
  have hread:WorkerDrainPlan.read serde
    (WorkerProtocolMessagePayload.toValue (.drainPlan a))=some a:=
   readPlan_structValue serde a
  rw [readAdvertisement_refused serde (refused _ (by rw [telltale];decide)),
   readDecision_refused serde (refused _ (by rw [telltale];decide)),
   readRequest_refused serde (refused _ (by rw [telltale];decide)),
   readResult_refused serde (refused _ (by rw [telltale];decide)),hread]
  rfl
 | error a=>
  have hread:WorkerProtocolErrorPayload.read
    (WorkerProtocolMessagePayload.toValue (.error a))=some a:=readError_members a
  rw [readAdvertisement_refused serde (refused _ (by rw [telltale];decide)),
   readDecision_refused serde (refused _ (by rw [telltale];decide)),
   readRequest_refused serde (refused _ (by rw [telltale];decide)),
   readResult_refused serde (refused _ (by rw [telltale];decide)),
   readPlan_refused serde (refused _ (by rw [telltale];decide)),hread]
  rfl

lemma readMessage_written(message:WorkerProtocolMessage):
  WorkerProtocolMessage.read serde (.object (writeFields WorkerProtocolMessage.fields message)) =
   some message:=by
 have hnames:(WorkerProtocolMessage.fields.map Prod.fst).Nodup:=by decide
 set source:StructSource:=⟨writeFields WorkerProtocolMessage.fields message,false⟩ with hs
 have hsource:structSource (WorkerProtocolMessage.fields.map Prod.fst)
   (.object (writeFields WorkerProtocolMessage.fields message))=some source:=by
  rw [structSource,keys_writeFields,if_pos ⟨fun _ h=>h,hnames⟩]
 have hversion:source.required "protocolVersion" (readU16 serde) =
   some message.protocolVersion:=required_of rfl (readU16_u16Value serde _)
 have hid:source.required "messageId" asString=some message.messageId:=
  required_of rfl (asString_string _)
 have hkind:source.required "kind" (readVariant WorkerProtocolMessageKind.variants) =
   some message.kind:=required_of rfl (readVariant_kind _)
 have hsequence:source.required "sequence" (readU64 serde)=some message.sequence:=
  required_of rfl (readU64_u64Value serde _)
 have hcorrelation:source.defaulted "correlationId" (readOption asString) none =
   some message.correlationId:=defaulted_of rfl (readOption_optionalText _)
 have hcausation:source.defaulted "causationId" (readOption asString) none =
   some message.causationId:=defaulted_of rfl (readOption_optionalText _)
 have hpayload:source.required "payload" (WorkerProtocolMessagePayload.read serde) =
   some message.payload:=required_of rfl (readPayload_toValue serde _)
 simp only [WorkerProtocolMessage.read,hsource,hversion,hid,hkind,hsequence,hcorrelation,
  hcausation,hpayload,bind_eq_bind,bind_some]
 rfl
end

section
attribute [local irreducible] sortMembers

lemma allNumbers_u64Value(n:UInt64):AllNumbers IsNumberToken (u64Value n):=
 isNumberToken_intToken _

lemma allNumbers_u16Value(n:UInt16):AllNumbers IsNumberToken (u16Value n):=
 isNumberToken_intToken _

lemma allNumbers_context(a:WorkerInvocationContext):AllNumbers IsNumberToken a.toValue:=by
 apply allNumbers_structValue
 simp only [WorkerInvocationContext.fields,forall_mem_cons]
 exact ⟨trivial,trivial,allNumbers_optionalText _,allNumbers_optionalText _,
  allNumbers_optionalText _,allNumbers_optionalText _,allNumbers_optionalText _,
  allNumbers_optionalText _,allNumbers_stringMap _,forall_mem_nil _⟩

lemma allNumbers_capability(a:BlockCapability):AllNumbers IsNumberToken a.toValue:=by
 apply allNumbers_structValue
 simp only [BlockCapability.fields,forall_mem_cons]
 exact ⟨trivial,forall_mem_nil _⟩

lemma allNumbers_drainDecision(a:WorkerDrainDecision):AllNumbers IsNumberToken a.toValue:=by
 apply allNumbers_structValue
 simp only [WorkerDrainDecision.fields,forall_mem_cons]
 exact ⟨trivial,trivial,trivial,trivial,allNumbers_u64Value _,trivial,trivial,trivial,
  allNumbers_u64Value _,trivial,forall_mem_nil _⟩

lemma allNumbers_error(a:WorkerProtocolErrorPayload):
  AllNumbers IsNumberToken (.object a.members):=by
 have hfields:AllNumbers IsNumberToken
   (.object (writeFields WorkerProtocolErrorPayload.fields a)):=by
  apply allNumbers_writeFields
  simp only [WorkerProtocolErrorPayload.fields,forall_mem_cons]
  exact ⟨trivial,trivial,trivial,forall_mem_nil _⟩
 unfold WorkerProtocolErrorPayload.members
 split
 · exact hfields
 · next details hdetails=>
   rw [AllNumbers,allNumbersMembers_iff] at hfields ⊢
   intro e he
   rcases mem_append.mp he with he|he
   · exact hfields e he
   · obtain rfl:=mem_singleton.mp he
     exact allNumbers_mapDocuments details

lemma allNumbers_payload(payload:WorkerProtocolMessagePayload):
  AllNumbers IsNumberToken payload.toValue:=by
 apply allNumbers_sortMembers
 cases payload with
 | advertisement a=>
  apply allNumbers_writeFields
  simp only [WorkerAdvertisement.fields,forall_mem_cons]
  exact ⟨allNumbers_u16Value _,trivial,trivial,trivial,trivial,
   allNumbers_array _ allNumbers_capability _,trivial,forall_mem_nil _⟩
 | admissionDecision a=>
  apply allNumbers_writeFields
  simp only [WorkerAdmissionDecision.fields,forall_mem_cons]
  exact ⟨trivial,trivial,trivial,allNumbers_u16Value _,trivial,trivial,
   allNumbers_array Value.string (fun _=>by trivial) _,allNumbers_optionalText _,
   forall_mem_nil _⟩
 | invokeRequest a=>
  apply allNumbers_writeFields
  simp only [WorkerInvokeRequest.fields,forall_mem_cons]
  exact ⟨trivial,trivial,trivial,trivial,allNumbers_u64Value _,trivial,
   allNumbers_context _,a.inputs.numbers,a.config.numbers,forall_mem_nil _⟩
 | invokeResult a=>
  apply allNumbers_writeFields
  simp only [WorkerInvokeResult.fields,forall_mem_cons]
  exact ⟨trivial,trivial,allNumbers_u64Value _,allNumbers_mapDocuments _,forall_mem_nil _⟩
 | drainPlan a=>
  apply allNumbers_writeFields
  simp only [WorkerDrainPlan.fields,forall_mem_cons]
  exact ⟨trivial,trivial,trivial,trivial,allNumbers_u64Value _,
   allNumbers_array _ allNumbers_drainDecision _,forall_mem_nil _⟩
 | error a=>exact allNumbers_error a

lemma allNumbers_message(message:WorkerProtocolMessage):
  AllNumbers IsNumberToken (.object (writeFields WorkerProtocolMessage.fields message)):=by
 apply allNumbers_writeFields
 simp only [WorkerProtocolMessage.fields,forall_mem_cons]
 exact ⟨allNumbers_u16Value _,trivial,trivial,allNumbers_u64Value _,
  allNumbers_optionalText _,allNumbers_optionalText _,allNumbers_payload _,
  forall_mem_nil _⟩
end

variable {message:WorkerProtocolMessage}

lemma height_le_of_valid{u:Unit}(h:message.validate=.ok u):
  height (.object (writeFields WorkerProtocolMessage.fields message))≤ maxCanonicalJsonDepth:=by
 unfold WorkerProtocolMessage.validate at h
 iterate 8 obtain ⟨-,-,h⟩:=bind_ok.mp h
 rw [←height_sortMembers]
 exact (validateCanonicalJsonDepth_ok_iff _).mp (mapError_ok.mp h)

lemma kind_of_valid{u:Unit}(h:message.validate=.ok u):message.payload.kind=message.kind:=by
 unfold WorkerProtocolMessage.validate at h
 iterate 5 obtain ⟨-,-,h⟩:=bind_ok.mp h
 obtain ⟨_,hkind,-⟩:=bind_ok.mp h
 exact (eq_of_beq (ensure_ok.mp hkind)).symm

section

/-- The reader of compact texts that takes exactly the decimal numerals for integers. -/
noncomputable def compactSerde (d:StringDisplay) : SerdeJson d :=
 { compactReader d with integer:=parseU64,integer_intToken:=fun _ h=>parseU64_intToken h }

variable {d:StringDisplay} (serde:SerdeJson d)

lemma deserialize_serialize{text:List Char}(h:message.serialize d=.ok text):
  WorkerProtocolMessage.deserialize serde text=.ok message:=by
 unfold WorkerProtocolMessage.serialize at h
 obtain ⟨u,hvalid,h⟩:=bind_ok.mp h
 obtain rfl:=Except.ok.inj h
 have hread:=serde.complete _ (allNumbers_message message) (height_le_of_valid hvalid)
 simp only [WorkerProtocolMessage.deserialize,hread,readMessage_written,hvalid,
  Except.mapError,ok_bind]
 rfl

lemma valid_of_deserialize{text:List Char}
  (h:WorkerProtocolMessage.deserialize serde text=.ok message):message.validate=.ok ():=by
 unfold WorkerProtocolMessage.deserialize at h
 split at h
 · cases h
 · split at h
   · cases h
   · next read _=>
     obtain ⟨u,hvalid,h⟩:=bind_ok.mp h
     obtain rfl:=Except.ok.inj h
     exact mapError_ok.mp hvalid

/-- A valid message is read back as it was written, and whatever is read is of its kind. -/
theorem worker_codec_unambiguous : (∀message:WorkerProtocolMessage,message.validate=.ok () →
   ∃text,message.serialize d=.ok text∧WorkerProtocolMessage.deserialize serde text=.ok message) ∧
   ∀(text:List Char) (message:WorkerProtocolMessage),
    WorkerProtocolMessage.deserialize serde text=.ok message→message.payload.kind=message.kind := by
 constructor
 · intro message hvalid
   have htext:message.serialize d =
     .ok (compact d (.object (writeFields WorkerProtocolMessage.fields message))):=by
    rw [WorkerProtocolMessage.serialize,hvalid]
    rfl
   exact ⟨_,htext,deserialize_serialize serde htext⟩
 · intro text message h
   exact kind_of_valid (valid_of_deserialize serde h)
end

def resultMessage : WorkerProtocolMessage where
 protocolVersion := workerProtocolVersion
 messageId := "message-1"
 kind := .invokeResult
 sequence := 1
 correlationId := some "invocation-1"
 causationId := none
 payload := .invokeResult ⟨"invocation-1", "attempt-1", 7,
  (∅ : StringMap JsonValue).insert "answer"
   ⟨.array [.string "tides", .null], by simp [AllNumbers, AllNumbersItems], rfl⟩⟩

theorem resultMessage_read_back : ∃ text, resultMessage.serialize serdeDisplay = .ok text ∧
  WorkerProtocolMessage.deserialize (compactSerde serdeDisplay) text = .ok resultMessage :=
 (worker_codec_unambiguous (compactSerde serdeDisplay)).1 resultMessage (by rfl)

end GraphBlocks.WorkerProtocol
