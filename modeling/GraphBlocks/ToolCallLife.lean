import GraphBlocks.ToolAdmission

/-! `ToolCallDraft::into_tool_call`, `ToolCall::transition_status`, and every call they lead to
with revisions and the admission. -/
namespace GraphBlocks.Tools
open Json CanonicalJson RustStd List

structure ToolCallDraft where
 responseId:String
 toolCallId:String
 toolName:String
 argumentFragments:List String
 sequence:ℕ
 status:ToolCallDraftStatus

def ToolCallDraft.validate (self:ToolCallDraft) : Except ToolCallError Unit :=
 requireFields .emptyField
  [("response_id",self.responseId),("tool_call_id",self.toolCallId),("tool_name",self.toolName)]

/-- Statuses that record the time of completion. -/
def completedStatuses : List ToolCallStatus :=
 [.completed,.failed,.denied,.cancelled,.policyStopped,.expired]

/-- The statuses that `transition_status` allows next. -/
def allowedTransitions : ToolCallStatus→List ToolCallStatus
 | .validated=>
  [.policyPending,.approvalPending,.admitted,.denied,.failed,.cancelled,.policyStopped,.expired]
 | .policyPending=>[.approvalPending,.admitted,.denied,.failed,.cancelled,.policyStopped,.expired]
 | .approvalPending=>[.admitted,.denied,.failed,.cancelled,.policyStopped,.expired]
 | .admitted=>[.running,.denied,.failed,.cancelled,.policyStopped,.expired]
 | .running=>[.completed,.denied,.failed,.cancelled,.policyStopped,.expired]
 | _=>[]

inductive ToolCallStep where
 | reviseArguments (arguments:Value)
 | admission (request:ToolAdmissionRequest)
 | transitionStatus (status:ToolCallStatus) (atUnixMs:ℕ)

inductive ToolCallStepError where
 | call (error:ToolCallError)
 | admission (error:ToolAdmissionError)

section
variable {d:StringDisplay} (reader:JsonReader d) (sha256:List Char→String)

def ToolCallDraft.intoToolCall (self:ToolCallDraft) (resolvedToolId:String)
  (createdAtUnixMs:ℕ) : Except ToolCallError ToolCall := do
 ensure (self.status == .argumentsComplete) (.argumentsNotComplete self.status)
 self.validate
 let assembled:=self.argumentFragments.flatMap String.toList
 let arguments ← (parseCanonicalJson reader assembled).mapError fun _=>.invalidArgumentsJson
 let argumentsDigest ← (canonicalHash d sha256 arguments).mapError .canonicalJson
 let call:ToolCall:=
  { toolCallId:=self.toolCallId,responseId:=self.responseId,resolvedToolId,name:=self.toolName
    arguments,argumentsDigest,revision:=1,status:=.validated,dependsOn:=[],createdAtUnixMs
    admittedAtUnixMs:=none,completedAtUnixMs:=none }
 call.validate d sha256
 return call

variable (d)

def ToolCall.transitionStatus (self:ToolCall) (status:ToolCallStatus) (atUnixMs:ℕ) :
  Except ToolCallError ToolCall := do
 self.validate d sha256
 ensure (decide (status∈allowedTransitions self.status))
  (.invalidStatusTransition self.status status)
 let transitioned:ToolCall:=
  { self with
    status,admittedAtUnixMs:=if status = .admitted then some atUnixMs else self.admittedAtUnixMs
    completedAtUnixMs:=if status∈completedStatuses then some atUnixMs else self.completedAtUnixMs }
 transitioned.validate d sha256
 return transitioned

/-- One step on a call; an admission is asked for the call itself. -/
def ToolCall.step (call:ToolCall) : ToolCallStep→Except ToolCallStepError ToolCall
 | .reviseArguments arguments=>(call.reviseArguments d sha256 arguments).mapError .call
 | .admission request=>
  ((ToolAdmission.admitCall d sha256 { request with call }).map AdmittedToolCall.call).mapError
   .admission
 | .transitionStatus status atUnixMs=>
  (call.transitionStatus d sha256 status atUnixMs).mapError .call
end

def ToolCallStep.isRevision : ToolCallStep→Bool
 | .reviseArguments _=>true
 | .admission _ | .transitionStatus _ _=>false

/-- An admission is not dated before the call. -/
def ToolCallStep.Timely (createdAtUnixMs:ℕ) : ToolCallStep→Prop
 | .admission request=>createdAtUnixMs≤request.admittedAtUnixMs
 | .reviseArguments _ | .transitionStatus _ _=>True

section
variable {d:StringDisplay} {sha256:List Char→String} {call next final:ToolCall}
 {createdAt revisions:ℕ} {step:ToolCallStep}

lemma ToolCall.digest_of_validate{u:Unit}(h:call.validate d sha256=.ok u):
  canonicalHash d sha256 call.arguments=.ok call.argumentsDigest:=by
 unfold ToolCall.validate at h
 simp only [bind_ok] at h
 obtain ⟨-,-,-,-,-,-,-,-,-,-,-,-,digest,hdigest,hsame⟩:=h
 rw [←eq_of_beq (ensure_ok.mp hsame)]
 exact mapError_ok.mp hdigest

lemma ToolCall.validate_admitted{u:Unit}{t:ℕ}(h:call.validate d sha256=.ok u)
  (hcompleted:call.completedAtUnixMs=none)(htime:call.createdAtUnixMs≤t):
  ({ call with status:=.admitted,admittedAtUnixMs:=some t }:ToolCall).validate d sha256 =
   .ok ():=by
 unfold ToolCall.validate at h ⊢
 simp only [bind_ok] at h ⊢
 obtain ⟨a,hfields,b,hrevision,-,-,-,-,-,-,c,hdepends,digest,hdigest,hsame⟩:=h
 refine ⟨a,hfields,b,hrevision,(),?_,(),?_,(),?_,c,hdepends,digest,hdigest,hsame⟩
 · exact ensure_ok.mpr (by simpa using htime)
 · exact ensure_ok.mpr (by simp [hcompleted])
 · exact ensure_ok.mpr (by simp [hcompleted])

/-- What is known of a call after some revisions. -/
structure ToolCall.Alive (d:StringDisplay) (sha256:List Char→String) (createdAt revisions:ℕ)
  (call:ToolCall) : Prop where
 valid:call.validate d sha256=.ok ()
 created:call.createdAtUnixMs=createdAt
 counted:call.revision=1+revisions
 uncompleted:call.status = .validated→call.completedAtUnixMs=none

lemma ToolCallDraft.intoToolCall_alive{reader:JsonReader d}{draft:ToolCallDraft}
  {resolvedToolId:String}(h:draft.intoToolCall reader sha256 resolvedToolId createdAt=.ok call):
  call.Alive d sha256 createdAt 0:=by
 unfold ToolCallDraft.intoToolCall at h
 simp only [bind_ok] at h
 obtain ⟨-,-,-,-,arguments,-,digest,-,⟨⟩,hvalid,h⟩:=h
 obtain rfl:=Except.ok.inj h
 exact ⟨hvalid,rfl,rfl,fun _=>rfl⟩

lemma ToolCall.Alive.revise{arguments:Value}(hcall:call.Alive d sha256 createdAt revisions)
  (h:call.reviseArguments d sha256 arguments=.ok next):
  next.Alive d sha256 createdAt (revisions+1):=by
 unfold ToolCall.reviseArguments at h
 simp only [bind_ok] at h
 obtain ⟨-,-,-,-,digest,-,-,-,⟨⟩,hvalid,h⟩:=h
 obtain rfl:=Except.ok.inj h
 refine ⟨hvalid,hcall.created,?_,fun _=>rfl⟩
 change call.revision+1=_
 rw [hcall.counted]
 omega

variable {request:ToolAdmissionRequest}

lemma admitCall_ok{admitted:AdmittedToolCall}
  (h:ToolAdmission.admitCall d sha256 request=.ok admitted):
  request.call.status=.validated∧admitted.call =
   { request.call with status:=.admitted,admittedAtUnixMs:=some request.admittedAtUnixMs }:=by
 unfold ToolAdmission.admitCall at h
 obtain ⟨_,hcall,h⟩:=bind_ok.mp h
 simp only [bind_ok] at h
 obtain ⟨-,-,-,-,-,-,-,-,h⟩:=h
 obtain rfl:=Except.ok.inj h
 unfold checkCall at hcall
 simp only [bind_ok] at hcall
 obtain ⟨-,-,-,-,_,hstatus,-⟩:=hcall
 exact ⟨eq_of_beq (ensure_ok.mp hstatus),rfl⟩

lemma ToolCall.Alive.transition{status:ToolCallStatus}{t:ℕ}
  (hcall:call.Alive d sha256 createdAt revisions)
  (h:call.transitionStatus d sha256 status t=.ok next):
  next.Alive d sha256 createdAt revisions:=by
 unfold ToolCall.transitionStatus at h
 simp only [bind_ok] at h
 obtain ⟨-,-,_,hallowed,⟨⟩,hvalid,h⟩:=h
 obtain rfl:=Except.ok.inj h
 have hmem:status∈allowedTransitions call.status:=of_decide_eq_true (ensure_ok.mp hallowed)
 refine ⟨hvalid,hcall.created,hcall.counted,?_⟩
 rintro rfl
 cases hstatus:call.status <;>rw [hstatus] at hmem <;>simp [allowedTransitions] at hmem

lemma ToolCall.step_admission
  (h:call.step d sha256 (.admission request)=.ok next):call.status=.validated ∧
  next = { call with status:=.admitted,admittedAtUnixMs:=some request.admittedAtUnixMs }:=by
 have hmapped:=mapError_ok.mp h
 cases hadmitted:ToolAdmission.admitCall d sha256 { request with call } with
 | error e=>
  rw [hadmitted] at hmapped
  cases hmapped
 | ok admitted=>
  rw [hadmitted] at hmapped
  obtain rfl:admitted.call=next:=Except.ok.inj hmapped
  exact admitCall_ok hadmitted

lemma ToolCall.Alive.after_step(hcall:call.Alive d sha256 createdAt revisions)
  (h:call.step d sha256 step=.ok next)(htimely:step.Timely createdAt):
  next.Alive d sha256 createdAt (revisions+step.isRevision.toNat):=by
 cases step with
 | reviseArguments arguments=>exact hcall.revise (mapError_ok.mp h)
 | admission request=>
  obtain ⟨hstatus,rfl⟩:=ToolCall.step_admission h
  have htime:call.createdAtUnixMs≤request.admittedAtUnixMs:=hcall.created.symm▸htimely
  refine ⟨ToolCall.validate_admitted hcall.valid (hcall.uncompleted hstatus) htime,
   hcall.created,hcall.counted,?_⟩
  intro h
  cases h
 | transitionStatus status t=>exact hcall.transition (mapError_ok.mp h)

lemma ToolCall.uncompleted_of_step(h:call.step d sha256 step=.ok next):
  call.status∉completedStatuses:=by
 cases step with
 | reviseArguments arguments=>
  have hrevised:=mapError_ok.mp h
  unfold ToolCall.reviseArguments at hrevised
  simp only [bind_ok] at hrevised
  obtain ⟨-,-,_,hstatus,-⟩:=hrevised
  rw [eq_of_beq (ensure_ok.mp hstatus)]
  decide
 | admission request=>
  rw [(ToolCall.step_admission h).1]
  decide
 | transitionStatus status t=>
  have hmoved:=mapError_ok.mp h
  unfold ToolCall.transitionStatus at hmoved
  simp only [bind_ok] at hmoved
  obtain ⟨-,-,_,hallowed,-⟩:=hmoved
  have hmem:status∈allowedTransitions call.status:=of_decide_eq_true (ensure_ok.mp hallowed)
  intro hcompleted
  cases hstatus:call.status <;>rw [hstatus] at hmem hcompleted <;>
   simp [allowedTransitions,completedStatuses] at hmem hcompleted

lemma ToolCall.Alive.run{steps:List ToolCallStep}(hcall:call.Alive d sha256 createdAt revisions)
  (h:steps.foldlM (ToolCall.step d sha256) call=.ok final)
  (htimely:∀step∈steps,step.Timely createdAt):
  final.Alive d sha256 createdAt (revisions+steps.countP ToolCallStep.isRevision):=by
 induction steps generalizing call revisions with
 | nil=>
  obtain rfl:=Except.ok.inj h
  exact hcall
 | cons step steps ih=>
  rw [foldlM_cons] at h
  obtain ⟨next,hnext,hrest⟩:=bind_ok.mp h
  have hlater:=ih (hcall.after_step hnext (htimely step mem_cons_self)) hrest
   fun other hother=>htimely other (mem_cons_of_mem _ hother)
  rw [countP_cons]
  cases hstep:step.isRevision <;>simp only [hstep] at hlater ⊢ <;>
   simpa [Nat.add_comm,Nat.add_left_comm,Nat.add_assoc] using hlater

/-- A call that is led by steps of which no admission is dated before the call stays valid, counts
its revisions, carries the digest of its arguments, and takes no step once it is completed. -/
theorem tool_calls_stay_valid {d : StringDisplay} (reader : JsonReader d)
  (sha256 : List Char→String) (draft : ToolCallDraft) (resolvedToolId : String) (createdAt : ℕ)
  (first call : ToolCall) (steps : List ToolCallStep)
  (hfirst : draft.intoToolCall reader sha256 resolvedToolId createdAt=.ok first)
  (hrun : steps.foldlM (ToolCall.step d sha256) first=.ok call)
  (htimely : ∀step∈steps,step.Timely createdAt) :
  call.validate d sha256=.ok ()∧call.revision=1+steps.countP ToolCallStep.isRevision ∧
   canonicalHash d sha256 call.arguments=.ok call.argumentsDigest ∧
   (call.status∈completedStatuses → ∀step,∃e,call.step d sha256 step=.error e) := by
 have hcall:call.Alive d sha256 createdAt (steps.countP ToolCallStep.isRevision):=by
  simpa using (ToolCallDraft.intoToolCall_alive hfirst).run hrun htimely
 refine ⟨hcall.valid,hcall.counted,ToolCall.digest_of_validate hcall.valid,?_⟩
 intro hcompleted step
 cases hstep:call.step d sha256 step with
 | error e=>exact ⟨e,rfl⟩
 | ok next=>exact absurd hcompleted (ToolCall.uncompleted_of_step hstep)
end

section

def ledgerDraft : ToolCallDraft where
 responseId := "response-1"
 toolCallId := "call-1"
 toolName := "append"
 argumentFragments := ["\x7b\"amount\":","12\x7d"]
 sequence:=3
 status:=.argumentsComplete

lemma ledgerDraft_intoToolCall:
  ledgerDraft.intoToolCall (compactReader serdeDisplay) ledgerSha256 "ledger" 100 =
   .ok ledgerCall:=by
 have htoken:StoredJson.intToken 12=['1','2']:=by decide
 have hread:=(compactReader serdeDisplay).complete ledgerArguments
  ⟨htoken▸StoredJson.isNumberToken_intToken 12,trivial⟩ (by decide)
 have htext:ledgerDraft.argumentFragments.flatMap String.toList =
   compact serdeDisplay ledgerArguments:=by decide +kernel
 have hparse:parseCanonicalJson (compactReader serdeDisplay)
   (ledgerDraft.argumentFragments.flatMap String.toList)=.ok ledgerArguments:=by
  unfold parseCanonicalJson
  rw [htext,hread,if_neg (by decide +kernel)]
  decide +kernel
 have hvalid:ledgerCall.validate serdeDisplay ledgerSha256=.ok ():=by decide +kernel
 have hhash:canonicalHash serdeDisplay ledgerSha256 ledgerArguments =
   .ok ledgerCall.argumentsDigest:=ToolCall.digest_of_validate hvalid
 unfold ToolCallDraft.intoToolCall
 refine bind_ok.mpr ⟨(),by decide,bind_ok.mpr ⟨(),by decide +kernel,?_⟩⟩
 refine bind_ok.mpr ⟨ledgerArguments,mapError_ok.mpr hparse,?_⟩
 refine bind_ok.mpr ⟨ledgerCall.argumentsDigest,mapError_ok.mpr hhash,?_⟩
 exact bind_ok.mpr ⟨(),hvalid,rfl⟩

def ledgerSteps : List ToolCallStep :=
 [.admission (ledgerRequest "first" 150),.transitionStatus .running 160,
  .transitionStatus .completed 170]

theorem ledgerSteps_stay_valid : ∃call,
  ledgerSteps.foldlM (ToolCall.step serdeDisplay ledgerSha256) ledgerCall=.ok call ∧
   call.validate serdeDisplay ledgerSha256=.ok ()∧call.revision=1 := by
 have hrun:(ledgerSteps.foldlM (ToolCall.step serdeDisplay ledgerSha256) ledgerCall).isOk=true:=by
  decide +kernel
 obtain ⟨call,hrun⟩:=ok_of_isOk hrun
 have htimely:∀step∈ledgerSteps,step.Timely 100:=by
  simp [ledgerSteps,ToolCallStep.Timely,ledgerRequest]
 have hcall:=tool_calls_stay_valid (compactReader serdeDisplay) ledgerSha256 ledgerDraft "ledger"
  100 ledgerCall call ledgerSteps ledgerDraft_intoToolCall hrun htimely
 exact ⟨call,hrun,hcall.1,hcall.2.1⟩

/-- An admission before the creation of the call, with an approval from before that too. -/
def earlyRequest : ToolAdmissionRequest :=
 { ledgerRequest "early" 50 with
   approval:=some (ToolApprovalRecord.approve
    { ledgerApproval.request with requestedAtUnixMs:=10 } "approver-1" 20) }

theorem early_admission_leaves_call_invalid : ∃call,
  ledgerDraft.intoToolCall (compactReader serdeDisplay) ledgerSha256 "ledger" 100 = .ok ledgerCall ∧
  ledgerCall.step serdeDisplay ledgerSha256 (.admission earlyRequest)=.ok call ∧
  call.status=.admitted ∧
  call.validate serdeDisplay ledgerSha256=.error (.admittedBeforeCreated 100 50) := by
 have hstep:(ledgerCall.step serdeDisplay ledgerSha256 (.admission earlyRequest)).isOk=true:=by
  decide +kernel
 obtain ⟨call,hstep⟩:=ok_of_isOk hstep
 obtain ⟨-,rfl⟩:=ToolCall.step_admission hstep
 exact ⟨_,ledgerDraft_intoToolCall,hstep,rfl,by decide +kernel⟩
end

end GraphBlocks.Tools
