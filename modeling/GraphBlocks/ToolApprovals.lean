import GraphBlocks.ToolDefinitions

/-! `ToolApprovalRequest` and `ToolApprovalRecord` of the runtime core. -/
namespace GraphBlocks.Tools
open Json RustStd Option

inductive ToolApprovalError where
 | emptyField (field:String)
 | missingField (field:String)
 | approvalIdMismatch (expected actual:String)
 | resolvedToolMismatch (expected actual:String)
 | toolNameMismatch (expected actual:String)
 | invalidExpiration (requestedAtUnixMs expiresAtUnixMs:ℕ)
 | invalidDecisionTime (requestedAtUnixMs decidedAtUnixMs expiresAtUnixMs:ℕ)
 | invalidInvalidationTime (requestedAtUnixMs invalidatedAtUnixMs:ℕ)
 | invalidRevision (revision:ℕ)
 | argumentsNotObject (toolCallId:String)
 | invalidToolCall (source:ToolCallError)

structure ToolApprovalRequest where
 approvalId:String
 toolCallId:String
 toolName:String
 revision:ℕ
 definitionDigest:String
 bindingDigest:String
 argumentsDigest:String
 policySnapshotId:String
 principalId:String
 requestedAtUnixMs:ℕ
 expiresAtUnixMs:ℕ

def ToolApprovalRequest.validate (self:ToolApprovalRequest) : Except ToolApprovalError Unit := do
 requireFields .emptyField
  [("approval_id",self.approvalId),("tool_call_id",self.toolCallId),
   ("tool_name",self.toolName),("definition_digest",self.definitionDigest),
   ("binding_digest",self.bindingDigest),("arguments_digest",self.argumentsDigest),
   ("policy_snapshot_id",self.policySnapshotId),("principal_id",self.principalId)]
 ensure (self.revision != 0) (.invalidRevision self.revision)
 ensure (self.requestedAtUnixMs<self.expiresAtUnixMs)
  (.invalidExpiration self.requestedAtUnixMs self.expiresAtUnixMs)

def isObject : Value→Bool
 | .object _=>true
 | _=>false

def ToolApprovalRequest.forCall (d:StringDisplay) (sha256:List Char→String)
  (approvalId:String) (resolvedTool:ResolvedTool) (call:ToolCall) (principalId:String)
  (requestedAtUnixMs expiresAtUnixMs:ℕ) : Except ToolApprovalError ToolApprovalRequest := do
 ensure (!isBlank approvalId) (.emptyField "approval_id")
 ensure (!isBlank principalId) (.emptyField "principal_id")
 ensure (requestedAtUnixMs<expiresAtUnixMs)
  (.invalidExpiration requestedAtUnixMs expiresAtUnixMs)
 (call.validate d sha256).mapError .invalidToolCall
 ensure (isObject call.arguments) (.argumentsNotObject call.toolCallId)
 ensure (call.resolvedToolId==resolvedTool.resolvedToolId)
  (.resolvedToolMismatch resolvedTool.resolvedToolId call.resolvedToolId)
 ensure (call.name==resolvedTool.definition.name)
  (.toolNameMismatch resolvedTool.definition.name call.name)
 let request : ToolApprovalRequest:=
  { approvalId,toolCallId:=call.toolCallId,toolName:=call.name,revision:=call.revision
    definitionDigest:=resolvedTool.definitionDigest,bindingDigest:=resolvedTool.bindingDigest
    argumentsDigest:=call.argumentsDigest,policySnapshotId:=resolvedTool.effectivePolicySnapshotId
    principalId,requestedAtUnixMs,expiresAtUnixMs }
 request.validate
 return request

inductive ToolApprovalStatus where
 | requested | approved | denied | invalidated
deriving DecidableEq

structure ToolApprovalRecord where
 approvalId:String
 request:ToolApprovalRequest
 status:ToolApprovalStatus
 approverId:Option String
 decidedAtUnixMs:Option ℕ
 invalidatedAtUnixMs:Option ℕ
 reason:Option String

def ToolApprovalRecord.approve (request:ToolApprovalRequest) (approverId:String)
  (decidedAtUnixMs:ℕ) : ToolApprovalRecord where
 approvalId:=request.approvalId
 request
 status:=.approved
 approverId:=some approverId
 decidedAtUnixMs:=some decidedAtUnixMs
 invalidatedAtUnixMs:=none
 reason:=none

def checkDecision (self:ToolApprovalRecord) : Except ToolApprovalError Unit := do
 ensure (!self.approverId.all isBlank) (.emptyField "approver_id")
 match self.decidedAtUnixMs with
 | none=>.error (.missingField "decided_at_unix_ms")
 | some decidedAt=>
  ensure (!(decidedAt<self.request.requestedAtUnixMs ||
    self.request.expiresAtUnixMs≤decidedAt))
   (.invalidDecisionTime self.request.requestedAtUnixMs decidedAt self.request.expiresAtUnixMs)

def checkReason (self:ToolApprovalRecord) : Except ToolApprovalError Unit :=
 match self.reason with
 | none=>.error (.missingField "reason")
 | some reason=>ensure (!isBlank reason) (.emptyField "reason")

def checkInvalidation (self:ToolApprovalRecord) : Except ToolApprovalError Unit :=
 match self.invalidatedAtUnixMs with
 | none=>.error (.missingField "invalidated_at_unix_ms")
 | some invalidatedAt=>
  ensure (self.request.requestedAtUnixMs ≤ invalidatedAt)
   (.invalidInvalidationTime self.request.requestedAtUnixMs invalidatedAt)

def ToolApprovalRecord.validate (self:ToolApprovalRecord) : Except ToolApprovalError Unit := do
 self.request.validate
 ensure (self.approvalId==self.request.approvalId)
  (.approvalIdMismatch self.request.approvalId self.approvalId)
 match self.status with
 | .requested=>.ok ()
 | .approved=>checkDecision self
 | .denied=>do
  checkDecision self
  checkReason self
 | .invalidated=>checkInvalidation self

def ToolApprovalRecord.isValidFor (self:ToolApprovalRecord) (resolvedTool:ResolvedTool)
  (call:ToolCall) (principalId:String) (nowUnixMs:ℕ) : Bool :=
 self.status == .approved
  && self.validate.isOk
  && self.approvalId==self.request.approvalId
  && self.invalidatedAtUnixMs.isNone
  && self.decidedAtUnixMs.any (· ≤ nowUnixMs)
  && nowUnixMs<self.request.expiresAtUnixMs
  && self.request.toolCallId==call.toolCallId
  && self.request.toolName==call.name
  && self.request.revision==call.revision
  && self.request.definitionDigest==resolvedTool.definitionDigest
  && self.request.bindingDigest==resolvedTool.bindingDigest
  && self.request.argumentsDigest==call.argumentsDigest
  && self.request.policySnapshotId==resolvedTool.effectivePolicySnapshotId
  && self.request.principalId==principalId

structure Describes (request:ToolApprovalRequest) (resolvedTool:ResolvedTool)
  (call:ToolCall) (principalId:String) : Prop where
 toolCallId:request.toolCallId=call.toolCallId
 toolName:request.toolName=call.name
 revision:request.revision=call.revision
 definitionDigest:request.definitionDigest=resolvedTool.definitionDigest
 bindingDigest:request.bindingDigest=resolvedTool.bindingDigest
 argumentsDigest:request.argumentsDigest=call.argumentsDigest
 policySnapshotId:request.policySnapshotId=resolvedTool.effectivePolicySnapshotId
 principalId:request.principalId=principalId

/-- The approval stands at a time: approved before, neither invalidated nor expired. -/
structure ToolApprovalRecord.StandsAt (self:ToolApprovalRecord) (nowUnixMs:ℕ) : Prop where
 approved:self.status=.approved
 kept:self.invalidatedAtUnixMs=none
 decided:∃decidedAt,self.decidedAtUnixMs=some decidedAt∧decidedAt≤nowUnixMs
 unexpired:nowUnixMs<self.request.expiresAtUnixMs

variable {resolvedTool:ResolvedTool}

lemma isValidFor_spec{approval:ToolApprovalRecord}{call:ToolCall}{principalId:String}
  {nowUnixMs:ℕ}(h:approval.isValidFor resolvedTool call principalId nowUnixMs=true):
  approval.StandsAt nowUnixMs∧Describes approval.request resolvedTool call principalId:=by
 simp only [ToolApprovalRecord.isValidFor,Bool.and_eq_true,beq_iff_eq,any_eq_true,
  decide_eq_true_eq,isNone_iff_eq_none] at h
 obtain ⟨⟨⟨⟨⟨⟨⟨⟨⟨⟨⟨⟨⟨hstatus,-⟩,-⟩,hkept⟩,decidedAt,hdecided,hle⟩,hexpires⟩,hid⟩,hname⟩,
  hrevision⟩,hdefinition⟩,hbinding⟩,harguments⟩,hsnapshot⟩,hprincipal⟩:=h
 exact ⟨⟨hstatus,hkept,⟨decidedAt,hdecided,hle⟩,hexpires⟩,
  ⟨hid,hname,hrevision,hdefinition,hbinding,harguments,hsnapshot,hprincipal⟩⟩

lemma forCall_describes{d:StringDisplay}{sha256:List Char→String}
  {approvalId principalId:String}{call:ToolCall}
  {requestedAtUnixMs expiresAtUnixMs:ℕ}{request:ToolApprovalRequest}
  (h:ToolApprovalRequest.forCall d sha256 approvalId resolvedTool call principalId
   requestedAtUnixMs expiresAtUnixMs=.ok request):
  Describes request resolvedTool call principalId:=by
 unfold ToolApprovalRequest.forCall at h
 iterate 8 obtain ⟨-,-,h⟩:=bind_ok.mp h
 obtain rfl:=Except.ok.inj h
 exact ⟨rfl,rfl,rfl,rfl,rfl,rfl,rfl,rfl⟩

end GraphBlocks.Tools
