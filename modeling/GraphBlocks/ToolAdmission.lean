import GraphBlocks.PolicyTime
import GraphBlocks.SerdeInstance
import GraphBlocks.ToolApprovals
import GraphBlocks.ToolSchemas
import Mathlib.Logic.Relation

/-! `ToolAdmission::admit` of the runtime core. A validated call is checked against its resolved
tool, the schema of its arguments, the policy decision and, where one is required or given, the
approval. -/
namespace GraphBlocks.Tools
open Json CanonicalJson PolicyTime RustStd StoredJson ToolSchemas

inductive PolicyEffect where
 | allow | deny | allowWithObligations | defer

structure PolicyObligation where
 obligationId:String
 obligationType:String

structure PolicyDecision where
 decisionId:String
 effect:PolicyEffect
 reasonCodes:List String
 obligations:List PolicyObligation
 validUntil:Option String
 inputDigest:String

structure ToolAdmissionRequest where
 call:ToolCall
 resolvedTool:ResolvedTool
 schemaRegistry:ToolSchemaRegistry
 policyDecision:PolicyDecision
 expectedPolicyInputDigest:String
 outputPolicyState:Option Value
 approval:Option ToolApprovalRecord
 principalId:String
 idempotencyKey:Option String
 admittedAtUnixMs:ℕ

structure AdmittedToolCall where
 call:ToolCall
 idempotencyKey:Option String

inductive ToolAdmissionError where
 | canonicalJson (error:CanonicalJsonError)
 | invalidToolCall (source:ToolCallError)
 | invalidOutputPolicyState
 | emptyPrincipalId
 | toolCallNotValidated (toolCallId:String) (status:ToolCallStatus)
 | resolvedToolMismatch (expected actual:String)
 | toolNameMismatch (expected actual:String)
 | approvalRequired (toolCallId:String)
 | approvalInvalid (approvalId toolCallId:String)
 | idempotencyKeyRequired (toolCallId:String)
 | emptyIdempotencyKey (toolCallId:String)
 | inputSchemaMissing (schemaId:String)
 | argumentsSchemaInvalid (toolCallId schemaId path expected:String)
 | requiredArgumentMissing (toolCallId schemaId path property:String)
 | argumentsDigestMismatch (toolCallId:String)
 | resolvedToolNotAllowed (resolvedToolId principalId:String)
 | resolvedToolExpired (resolvedToolId:String) (validUntilUnixMs admittedAtUnixMs:ℕ)
 | policyDecisionMissingInputDigest (decisionId:String)
 | policyInputDigestMismatch (decisionId expected actual:String)
 | policyDecisionExpired (decisionId validUntil:String) (admittedAtUnixMs:ℕ)
 | policyDenied (decisionId:String) (reasonCodes:List String)
 | policyDeferred (decisionId:String) (reasonCodes:List String)
 | responsePolicyStopped (responseId:String)

def policyDecisionExpired (validUntil:String) (admittedAtUnixMs:ℕ) : Bool :=
 (parsePolicyDatetimeMillis validUntil).all (· ≤ (admittedAtUnixMs:ℤ))

def outputPolicyStateIsStopped : Option Value→Bool
 | some (.object state)=>["response_status","status","terminal_state"].any fun field=>
   (state.lookup field).bind asString==some "policy_stopped"
 | _=>false

def outputPolicyStateIsValidForResponse (responseId:String) : Option Value→Bool
 | some (.object state)=>((state.lookup "response_id").bind asString).all (· == responseId)
 | outputPolicyState=>outputPolicyState.isNone

def callFailure : ToolCallError→ToolAdmissionError
 | .argumentsDigestMismatch toolCallId=>.argumentsDigestMismatch toolCallId
 | source=>.invalidToolCall source

def schemaFailure (toolCallId:String) : ToolSchemaValidationError→ToolAdmissionError
 | .schemaMissing schemaId=>.inputSchemaMissing schemaId
 | .typeMismatch schemaId path expected=>.argumentsSchemaInvalid toolCallId schemaId path expected
 | .requiredPropertyMissing schemaId path property=>
  .requiredArgumentMissing toolCallId schemaId path property

section
variable (d:StringDisplay) (sha256:List Char→String) (request:ToolAdmissionRequest)

def checkCall : Except ToolAdmissionError Unit := do
 (request.call.validate d sha256).mapError callFailure
 ensure (!isBlank request.principalId) .emptyPrincipalId
 ensure (request.call.status == .validated)
  (.toolCallNotValidated request.call.toolCallId request.call.status)
 ensure (outputPolicyStateIsValidForResponse request.call.responseId request.outputPolicyState)
  .invalidOutputPolicyState
 ensure (!outputPolicyStateIsStopped request.outputPolicyState)
  (.responsePolicyStopped request.call.responseId)

def checkTool : Except ToolAdmissionError Unit := do
 ensure (request.call.resolvedToolId==request.resolvedTool.resolvedToolId)
  (.resolvedToolMismatch request.resolvedTool.resolvedToolId request.call.resolvedToolId)
 ensure (request.call.name==request.resolvedTool.definition.name)
  (.toolNameMismatch request.resolvedTool.definition.name request.call.name)
 let digest ← (canonicalHash d sha256 request.call.arguments).mapError .canonicalJson
 ensure (digest==request.call.argumentsDigest)
  (.argumentsDigestMismatch request.call.toolCallId)
 (request.schemaRegistry.validate request.resolvedTool.definition.inputSchema
  request.call.arguments).mapError (schemaFailure request.call.toolCallId)
 ensure request.resolvedTool.allowedForPrincipal
  (.resolvedToolNotAllowed request.resolvedTool.resolvedToolId request.principalId)
 ensure (!request.resolvedTool.validUntilUnixMs.any (· ≤ request.admittedAtUnixMs))
  (.resolvedToolExpired request.resolvedTool.resolvedToolId
   (request.resolvedTool.validUntilUnixMs.getD 0) request.admittedAtUnixMs)

def checkPolicyDecision : Except ToolAdmissionError Unit := do
 let decision:=request.policyDecision
 ensure (!isBlank decision.inputDigest) (.policyDecisionMissingInputDigest decision.decisionId)
 ensure (decision.inputDigest==request.expectedPolicyInputDigest)
  (.policyInputDigestMismatch decision.decisionId request.expectedPolicyInputDigest
   decision.inputDigest)
 ensure (!decision.validUntil.any fun validUntil=>
   policyDecisionExpired validUntil request.admittedAtUnixMs)
  (.policyDecisionExpired decision.decisionId (decision.validUntil.getD "")
   request.admittedAtUnixMs)
 match decision.effect with
 | .allow | .allowWithObligations=>.ok ()
 | .deny=>.error (.policyDenied decision.decisionId decision.reasonCodes)
 | .defer=>.error (.policyDeferred decision.decisionId decision.reasonCodes)

def policyRequiresApproval : Bool :=
 request.resolvedTool.binding.approval == .policy &&
  request.policyDecision.obligations.any fun obligation=>
   obligation.obligationType == "require_tool_approval"

def checkApprovalRecord (approval:ToolApprovalRecord) : Except ToolAdmissionError Unit :=
 ensure (approval.isValidFor request.resolvedTool request.call request.principalId
   request.admittedAtUnixMs)
  (.approvalInvalid approval.approvalId request.call.toolCallId)

def checkApproval : Except ToolAdmissionError Unit :=
 if request.resolvedTool.binding.approval == .always||policyRequiresApproval request then
  match request.approval with
  | none=>.error (.approvalRequired request.call.toolCallId)
  | some approval=>checkApprovalRecord request approval
 else
  match request.approval with
  | none=>.ok ()
  | some approval=>checkApprovalRecord request approval

def checkIdempotencyKey : Except ToolAdmissionError Unit :=
 match request.idempotencyKey with
 | some idempotencyKey=>
  ensure (!isBlank idempotencyKey) (.emptyIdempotencyKey request.call.toolCallId)
 | none=>
  ensure (request.resolvedTool.binding.idempotency != .required)
   (.idempotencyKeyRequired request.call.toolCallId)

def ToolAdmission.admitCall : Except ToolAdmissionError AdmittedToolCall := do
 checkCall d sha256 request
 checkTool d sha256 request
 checkPolicyDecision request
 checkApproval request
 checkIdempotencyKey request
 return {
  call:={
   request.call with
    status:=.admitted
    admittedAtUnixMs:=some request.admittedAtUnixMs }
  idempotencyKey:=request.idempotencyKey }
end

section
variable {d:StringDisplay} {sha256:List Char→String} {approval:ToolApprovalRecord}
 {request:ToolAdmissionRequest}

lemma checkApproval_spec{u:Unit}
  (hgiven:request.approval=some approval)(h:checkApproval request=.ok u):
  approval.StandsAt request.admittedAtUnixMs ∧
   Describes approval.request request.resolvedTool request.call request.principalId:=by
 have hrecord:checkApprovalRecord request approval=.ok u:=by
  unfold checkApproval at h
  simpa only [hgiven,ite_self] using h
 exact isValidFor_spec (ensure_ok.mp hrecord)

lemma checkTool_digest{u:Unit}(h:checkTool d sha256 request=.ok u):
  canonicalHash d sha256 request.call.arguments=.ok request.call.argumentsDigest:=by
 unfold checkTool at h
 obtain ⟨-,-,h⟩:=bind_ok.mp h
 obtain ⟨-,-,h⟩:=bind_ok.mp h
 obtain ⟨digest,hdigest,h⟩:=bind_ok.mp h
 obtain ⟨_,hsame,-⟩:=bind_ok.mp h
 rw [←eq_of_beq (ensure_ok.mp hsame)]
 exact mapError_ok.mp hdigest

structure AdmittedWith (d:StringDisplay) (sha256:List Char→String)
  (request:ToolAdmissionRequest) (approval:ToolApprovalRecord) (admitted:AdmittedToolCall) :
  Prop where
 digest:canonicalHash d sha256 request.call.arguments=.ok request.call.argumentsDigest
 stands:approval.StandsAt request.admittedAtUnixMs
 describes:Describes approval.request request.resolvedTool request.call request.principalId
 toolCallId:admitted.call.toolCallId=request.call.toolCallId
 name:admitted.call.name=request.call.name
 revision:admitted.call.revision=request.call.revision
 arguments:admitted.call.arguments=request.call.arguments

lemma admitCall_spec{admitted:AdmittedToolCall}(hgiven:request.approval=some approval)
  (h:ToolAdmission.admitCall d sha256 request=.ok admitted):
  AdmittedWith d sha256 request approval admitted:=by
 unfold ToolAdmission.admitCall at h
 obtain ⟨-,-,h⟩:=bind_ok.mp h
 obtain ⟨_,htool,h⟩:=bind_ok.mp h
 obtain ⟨-,-,h⟩:=bind_ok.mp h
 obtain ⟨_,happroval,h⟩:=bind_ok.mp h
 obtain ⟨-,-,h⟩:=bind_ok.mp h
 obtain rfl:=Except.ok.inj h
 obtain ⟨hstands,hdescribes⟩:=checkApproval_spec hgiven happroval
 exact ⟨checkTool_digest htool,hstands,hdescribes,rfl,rfl,rfl,rfl⟩

variable (d sha256) in
def Revises (call revised:ToolCall) : Prop :=
 ∃arguments,call.reviseArguments d sha256 arguments=.ok revised

variable {call:ToolCall}

lemma Revises.revision{revised:ToolCall}(h:Revises d sha256 call revised):
  revised.revision=call.revision+1:=by
 obtain ⟨arguments,h⟩:=h
 unfold ToolCall.reviseArguments at h
 iterate 5 obtain ⟨_,-,h⟩:=bind_ok.mp h
 obtain rfl:=Except.ok.inj h
 rfl

lemma revision_lt_of_revised{revised:ToolCall}
  (h:Relation.TransGen (Revises d sha256) call revised):call.revision<revised.revision:=by
 induction h with
 | single hstep=>rw [Revises.revision hstep];omega
 | tail _ hstep ih=>rw [Revises.revision hstep];omega

variable (d sha256) in
/-- However often `call` is revised, the approval admits no revision of it. -/
def RevisionsRejected (approval:ToolApprovalRecord) (call:ToolCall) : Prop :=
 ∀(request:ToolAdmissionRequest) (admitted:AdmittedToolCall),
  Relation.TransGen (Revises d sha256) call request.call → request.approval=some approval →
   ToolAdmission.admitCall d sha256 request ≠ .ok admitted

lemma revisions_rejected{tool:ResolvedTool}{principalId:String}
  (h:Describes approval.request tool call principalId):
  RevisionsRejected d sha256 approval call:=by
 intro request admitted hrevised hgiven hadmitted
 have hlt:=revision_lt_of_revised hrevised
 have hsame:approval.request.revision=request.call.revision:=
  Describes.revision (AdmittedWith.describes (admitCall_spec hgiven hadmitted))
 have hcall:=h.revision
 omega

structure SameAction (d:StringDisplay) (first second:ToolAdmissionRequest)
  (admitted admitted':AdmittedToolCall) : Prop where
 toolCallId:admitted.call.toolCallId=admitted'.call.toolCallId
 name:admitted.call.name=admitted'.call.name
 revision:admitted.call.revision=admitted'.call.revision
 arguments:canonicalJson d admitted.call.arguments=canonicalJson d admitted'.call.arguments
 principalId:first.principalId=second.principalId
 policySnapshotId:first.resolvedTool.effectivePolicySnapshotId =
  second.resolvedTool.effectivePolicySnapshotId
 definition:first.resolvedTool.definition=second.resolvedTool.definition
 binding:first.resolvedTool.binding=second.resolvedTool.binding

lemma sameAction_of_admitted(hsha:Function.Injective sha256){first second:ToolAdmissionRequest}
  {admitted admitted':AdmittedToolCall}(htool:first.resolvedTool.validate d sha256=.ok ())
  (htool':second.resolvedTool.validate d sha256=.ok ())
  (h:AdmittedWith d sha256 first approval admitted)
  (h':AdmittedWith d sha256 second approval admitted'):
  SameAction d first second admitted admitted':=by
 have hd:=h.describes
 have hd':=h'.describes
 have hdigest:=h'.digest
 rw [←hd'.argumentsDigest,hd.argumentsDigest] at hdigest
 obtain ⟨hdefinition,hbinding⟩:=resolvedTool_identified hsha htool htool'
  (hd.definitionDigest.symm.trans hd'.definitionDigest)
  (hd.bindingDigest.symm.trans hd'.bindingDigest)
 constructor
 · rw [h.toolCallId,h'.toolCallId,←hd.toolCallId,←hd'.toolCallId]
 · rw [h.name,h'.name,←hd.toolName,←hd'.toolName]
 · rw [h.revision,h'.revision,←hd.revision,←hd'.revision]
 · rw [h.arguments,h'.arguments]
   exact canonicalJson_of_hash hsha h.digest hdigest
 · rw [←hd.principalId,←hd'.principalId]
 · rw [←hd.policySnapshotId,←hd'.policySnapshotId]
 · exact hdefinition
 · exact hbinding

/-- An approval is good for one action only, and for none of its revisions. -/
theorem approvals_not_transferable (d : StringDisplay) (sha256 : List Char→String)
  (hsha : Function.Injective sha256) (approval : ToolApprovalRecord)
  (first second : ToolAdmissionRequest)
  (admitted admitted' : AdmittedToolCall) (hfirst : first.approval=some approval)
  (hsecond : second.approval=some approval) (htool : first.resolvedTool.validate d sha256=.ok ())
  (htool' : second.resolvedTool.validate d sha256=.ok ())
  (h : ToolAdmission.admitCall d sha256 first=.ok admitted)
  (h' : ToolAdmission.admitCall d sha256 second=.ok admitted') :
  SameAction d first second admitted admitted' ∧
   approval.StandsAt first.admittedAtUnixMs∧approval.StandsAt second.admittedAtUnixMs ∧
   RevisionsRejected d sha256 approval first.call ∧
   ∀approvalId tool call principalId requestedAt expiresAt,
    ToolApprovalRequest.forCall d sha256 approvalId tool call principalId requestedAt
     expiresAt=.ok approval.request→RevisionsRejected d sha256 approval call := by
 have hspec:=admitCall_spec hfirst h
 have hspec':=admitCall_spec hsecond h'
 refine ⟨sameAction_of_admitted hsha htool htool' hspec hspec',hspec.stands,hspec'.stands,
  revisions_rejected hspec.describes,?_⟩
 intro approvalId tool call principalId requestedAt expiresAt hrequest
 exact revisions_rejected (forCall_describes hrequest)

def ledgerDefinition : ToolDefinition where
 name := "append"
 description := "Appends."
 inputSchema := "entry@1"
 outputSchema:=none
 tags:=∅
 version:=none

def ledgerBinding : ToolBinding where
 bindingId := "ledger"
 toolName := "append"
 implementation:=.mcp ⟨"ledger","append"⟩
 effects:={.network}
 approval:=.always
 idempotency:=.optional
 cancellation:=.cooperative
 resultMode:=.value
 timeoutMs:=some 5000
 retryPolicyRef:=none
 policyProfileRef:=none
 executionClass:=none

def ledgerArguments : Value := .object [("amount",.number ['1','2'])]

lemma injective_update{α β:Type}[DecidableEq α]{f:α→β}(hf:Function.Injective f)
  {a:α}{b:β}(hb:∀x,f x≠b):Function.Injective (Function.update f a b):=by
 intro x y h
 by_cases hx:x=a
 · by_cases hy:y=a
   · rw [hx,hy]
   · rw [hx,Function.update_self,Function.update_of_ne hy] at h
     exact absurd h.symm (hb y)
 · by_cases hy:y=a
   · rw [hy,Function.update_self,Function.update_of_ne hx] at h
     exact absurd h (hb x)
   · rw [Function.update_of_ne hx,Function.update_of_ne hy] at h
     exact hf h

def definitionHex : String := "7af9ca97ef03a6a96b631830c88aa6dbf80f6e5c23de3ebaec87f325b5ee1280"

def bindingHex : String := "69f8cf6716a6a5557fa0f7a117d4cdd47211a2ebf1c623642ae0eccd74881212"

def argumentsHex : String := "70e1d28f6239e1afba2e3a3b9671674417e76f46126b75b9d5fe0436d752a013"

def otherSha256 (text:List Char) : String := "#" ++ String.ofList text

/-- SHA-256 on the three texts that are hashed below, and some text of its own for any other. -/
def ledgerSha256 : List Char→String :=
 Function.update (Function.update (Function.update otherSha256
  (canonicalJsonUnchecked serdeDisplay ledgerArguments) argumentsHex)
  (canonicalJsonUnchecked serdeDisplay
   (.object (writeFields ToolBinding.document ledgerBinding))) bindingHex)
  (canonicalJsonUnchecked serdeDisplay
   (.object (writeFields ToolDefinition.document ledgerDefinition))) definitionHex

lemma update_ne{f:List Char→String}{text x:List Char}{digest other:String}
  (hdigest:digest≠other)(hf:f x≠other):Function.update f text digest x≠other:=by
 rw [Function.update_apply]
 split
 · exact hdigest
 · exact hf

lemma ledgerSha256_injective:Function.Injective ledgerSha256:=by
 have hmark (digest:String) (hdigest:digest.toList.head?≠some '#') (text:List Char) :
   otherSha256 text≠digest:=by
  rintro rfl
  simp [otherSha256] at hdigest
 have hother:Function.Injective otherSha256:=by
  intro a b h
  exact String.ofList_injective (append_left_injective "#" h)
 have harguments:=injective_update hother (hmark argumentsHex (by decide +kernel))
  (a:=canonicalJsonUnchecked serdeDisplay ledgerArguments)
 have hbinding:=injective_update harguments (a:=canonicalJsonUnchecked serdeDisplay
   (.object (writeFields ToolBinding.document ledgerBinding))) fun text=>
  update_ne (by decide +kernel) (hmark bindingHex (by decide +kernel) text)
 exact injective_update hbinding fun text=>
  update_ne (by decide +kernel)
   (update_ne (by decide +kernel) (hmark definitionHex (by decide +kernel) text))

def ledgerTool : ResolvedTool where
 resolvedToolId := "ledger"
 definition:=ledgerDefinition
 binding:=ledgerBinding
 definitionDigest := "sha256:" ++ definitionHex
 bindingDigest := "sha256:" ++ bindingHex
 effectivePolicySnapshotId := "snapshot-1"
 allowedForPrincipal:=true
 validUntilUnixMs:=some 10000

def ledgerCall : ToolCall where
 toolCallId := "call-1"
 responseId := "response-1"
 resolvedToolId := "ledger"
 name := "append"
 arguments:=ledgerArguments
 argumentsDigest := "sha256:" ++ argumentsHex
 revision:=1
 status:=.validated
 dependsOn:=[]
 createdAtUnixMs:=100
 admittedAtUnixMs:=none
 completedAtUnixMs:=none

def ledgerApproval : ToolApprovalRecord :=
 ToolApprovalRecord.approve
  { approvalId := "approval-1"
    toolCallId := "call-1"
    toolName := "append"
    revision:=1
    definitionDigest:=ledgerTool.definitionDigest
    bindingDigest:=ledgerTool.bindingDigest
    argumentsDigest:=ledgerCall.argumentsDigest
    policySnapshotId := "snapshot-1"
    principalId := "principal-1"
    requestedAtUnixMs:=110
    expiresAtUnixMs:=900 }
  "approver-1" 120

def ledgerRequest (idempotencyKey:String) (admittedAtUnixMs:ℕ) : ToolAdmissionRequest where
 call:=ledgerCall
 resolvedTool:=ledgerTool
 schemaRegistry:=⟨(∅:StringMap JsonSchemaNode).insert "entry@1"
  (.node (some .object) [("amount",.node (some .integer) [] [] none)] ["amount"] none)⟩
 policyDecision:=⟨"decision-1",.allow,[],[],some "2030-01-01T00:00:00Z","sha256:input"⟩
 expectedPolicyInputDigest := "sha256:input"
 outputPolicyState:=none
 approval:=some ledgerApproval
 principalId := "principal-1"
 idempotencyKey:=some idempotencyKey
 admittedAtUnixMs

lemma ok_of_isOk{ε α:Type}{x:Except ε α}(h:x.isOk=true):∃a,x=.ok a:=by
 cases x with
 | error e=>cases h
 | ok a=>exact ⟨a,rfl⟩

theorem ledgerApproval_not_transferable : ∃admitted admitted',
  ToolAdmission.admitCall serdeDisplay ledgerSha256 (ledgerRequest "first" 150)=.ok admitted ∧
   ToolAdmission.admitCall serdeDisplay ledgerSha256 (ledgerRequest "second" 800) = .ok admitted' ∧
   SameAction serdeDisplay (ledgerRequest "first" 150) (ledgerRequest "second" 800) admitted
    admitted' ∧
   RevisionsRejected serdeDisplay ledgerSha256 ledgerApproval ledgerCall := by
 have htool:(ledgerTool.validate serdeDisplay ledgerSha256).isOk=true:=by decide +kernel
 have hfirst:(ToolAdmission.admitCall serdeDisplay ledgerSha256
   (ledgerRequest "first" 150)).isOk=true:=by decide +kernel
 have hsecond:(ToolAdmission.admitCall serdeDisplay ledgerSha256
   (ledgerRequest "second" 800)).isOk=true:=by decide +kernel
 obtain ⟨⟨⟩,htool⟩:=ok_of_isOk htool
 obtain ⟨admitted,hfirst⟩:=ok_of_isOk hfirst
 obtain ⟨admitted',hsecond⟩:=ok_of_isOk hsecond
 have hsame:=approvals_not_transferable serdeDisplay ledgerSha256 ledgerSha256_injective
  ledgerApproval (ledgerRequest "first" 150) (ledgerRequest "second" 800) admitted admitted'
  rfl rfl htool htool hfirst hsecond
 exact ⟨admitted,admitted',hfirst,hsecond,hsame.1,hsame.2.2.2.1⟩
end

end GraphBlocks.Tools
