import GraphBlocks.MachineRuns
import GraphBlocks.StoredJson

/-! `InMemoryRunStore` of the runtime core: run records by run id, and for each run at most one
ownership lease. -/
namespace GraphBlocks.RunStore
open Json RustStd StoredJson

inductive RunInvocationMode where
 | sync | accepted | background

inductive RunStatus where
 | created | validating | admissionPending | admitted | queued | running
 | waitingInput | waitingApproval | waitingReview | waitingCallback
 | paused | pausedBudget | pausedCallbackDelivery | pausedPolicy | pausedOperator
 | interrupted | resuming
 | completed | failed | cancelled | expired | policyStopped

def RunStatus.isTerminal : RunStatus→Bool
 | .completed | .failed | .cancelled | .expired | .policyStopped=>true
 | _=>false

structure RunDeploymentProvenance where
 releaseDigest:Option String
 deploymentRevisionId:Option String
 physicalPlanHash:Option String
 releaseSignatureDigest:Option String

def RunDeploymentProvenance.new : RunDeploymentProvenance := ⟨none,none,none,none⟩

structure ModelVisibleToolRef where
 toolName:String
 resolvedToolId:String
 definitionDigest:String
 bindingDigest:String
 effectivePolicySnapshotId:String
 allowedForPrincipal:Bool
 validUntilUnixMs:Option ℕ

/-- The derived order of `ModelVisibleToolRef` is lexicographic in the fields, `None` first. -/
def ModelVisibleToolRef.sortKey (tool:ModelVisibleToolRef) :
  String ×ₗ String ×ₗ String ×ₗ String ×ₗ String ×ₗ Bool ×ₗ WithBot ℕ :=
 toLex (tool.toolName,toLex (tool.resolvedToolId,toLex (tool.definitionDigest,
  toLex (tool.bindingDigest,toLex (tool.effectivePolicySnapshotId,
   toLex (tool.allowedForPrincipal,tool.validUntilUnixMs))))))

def sortedModelVisibleTools (tools:List ModelVisibleToolRef) : List ModelVisibleToolRef :=
 tools.insertionSort fun a b=>a.sortKey≤b.sortKey

structure RunRecord where
 runId:String
 sequence:ℕ
 graphHash:String
 invocationMode:RunInvocationMode
 inputs:Value
 deploymentProvenance:RunDeploymentProvenance
 modelVisibleTools:List ModelVisibleToolRef
 status:RunStatus
 state:Value
 stateRevision:ℕ

structure RunOwnershipLease where
 runId:String
 leaseId:String
 owner:String
 fencingEpoch:ℕ
 acquiredAtUnixMs:ℕ
 expiresAtUnixMs:ℕ
deriving DecidableEq

def RunOwnershipLease.isActiveAt (lease:RunOwnershipLease) (nowUnixMs:ℕ) : Bool :=
 decide (lease.acquiredAtUnixMs≤nowUnixMs)&&decide (nowUnixMs<lease.expiresAtUnixMs)

structure RunOwnershipLeaseIdentity where
 owner:String
 leaseId:String
 fencingEpoch:ℕ

def RunOwnershipLeaseIdentity.fromLease (lease:RunOwnershipLease) : RunOwnershipLeaseIdentity :=
 ⟨lease.owner,lease.leaseId,lease.fencingEpoch⟩

/-- What a `RunStoreError::Storage` message reports. -/
inductive StorageFailure where
 | json (message:String)
 | unknownText (label text:String)
 | exceedsIntegerRange (label:String)
 | negative (label:String)
 | malformed (message:String)
 | invalidMember (what key:String)
 | notExactString (field:String)
 | epochNotPositive
 | leaseIdMismatch (leaseId expected:String)
 | expirationNotAfterAcquisition
 | updatedRows (runId:String) (rows:ℕ)
 | uniqueConstraint
 | notAnInteger

inductive RunStoreError where
 | emptyField (field:String)
 | alreadyExists (runId:String)
 | notFound (runId:String)
 | stateConflict (runId:String) (expectedRevision currentRevision:ℕ)
 | statePatchAfterTerminal (runId:String) (status:RunStatus)
 | statusAfterTerminal (runId:String) (status:RunStatus)
 | invocationProvenanceAfterTerminal (runId:String) (status:RunStatus)
 | invalidRunOwnershipLease (runId reason:String)
 | runOwnershipLeaseActive (runId owner:String) (expiresAtUnixMs:ℕ)
 | runOwnershipLeaseMismatch (runId:String) (expected actual:RunOwnershipLeaseIdentity)
 | runOwnershipLeaseExpired (runId leaseId:String) (expiresAtUnixMs nowUnixMs:ℕ)
 | invalidStatePath (path:List String)
 | statePathConflict (path:List String) (expected:String)
 | numericOverflow (path:List String)
 | sequenceExhausted
 | storage (failure:StorageFailure)

inductive PatchOperation where
 | set (path:List String) (value:Value)
 | merge (path:List String) (value:Value)
 | remove (path:List String)
 | increment (path:List String) (amount:ℤ)
 | append (path:List String) (value:Value)

structure StatePatch where
 expectedRevision:Option ℕ
 operations:List PatchOperation

/-- Walks to the parent of the last segment, adding missing objects on the way, and rewrites the
parent there. `path` is the whole path, reported by errors. -/
def updateParent (path:List String)
  (rewrite:String→StringMap Value→Except RunStoreError (StringMap Value)) :
  List String→Value→Except RunStoreError Value
 | [], _=>.error (.invalidStatePath path)
 | [key], .object members=>do
  let updated ← rewrite key (objectMap members)
  .ok (toObject updated)
 | segment::key::rest, .object members=>do
  let object:=objectMap members
  let child ← updateParent path rewrite (key::rest) (object[segment]?.getD (.object []))
  .ok (toObject (object.insert segment child))
 | _::_, _=>.error (.statePathConflict path "object parent")

/-- As `updateParent` for a removal: a missing parent leaves the state as it is. -/
def removeAt (path:List String) : List String→Value→Except RunStoreError Value
 | [], _=>.error (.invalidStatePath path)
 | [key], .object members=>.ok (toObject ((objectMap members).erase key))
 | segment::key::rest, .object members=>
  match (objectMap members)[segment]? with
  | none=>.ok (.object members)
  | some next=>do
   let child ← removeAt path (key::rest) next
   .ok (toObject ((objectMap members).insert segment child))
 | _::_, _=>.error (.statePathConflict path "object parent")

def mergeMember (path:List String) (source:Members) (key:String) (object:StringMap Value) :
  Except RunStoreError (StringMap Value) :=
 match object[key]?.getD (.object []) with
 | .object target=>
  .ok (object.insert key (toObject (source.foldl (fun m e=>m.insert e.1 e.2) (objectMap target))))
 | _=>.error (.statePathConflict path "object target")

def incrementMember (path:List String) (amount:ℤ) (key:String) (object:StringMap Value) :
  Except RunStoreError (StringMap Value) :=
 match asI64 (object[key]?.getD (.number (intToken 0))) with
 | none=>.error (.statePathConflict path "integer target")
 | some current=>
  match Usage.checkedI64 (current+amount) with
  | none=>.error (.numericOverflow path)
  | some next=>.ok (object.insert key (.number (intToken next)))

def appendMember (path:List String) (value:Value) (key:String) (object:StringMap Value) :
  Except RunStoreError (StringMap Value) :=
 match object[key]?.getD (.array []) with
 | .array items=>.ok (object.insert key (.array (items++[value])))
 | _=>.error (.statePathConflict path "array target")

def applyOperation (state:Value) : PatchOperation→Except RunStoreError Value
 | .set path value=>updateParent path (fun key object=>.ok (object.insert key value)) path state
 | .merge path value=>
  if path.isEmpty then .error (.invalidStatePath path)
  else
   match value with
   | .object source=>updateParent path (mergeMember path source) path state
   | _=>.error (.statePathConflict path "object value")
 | .remove path=>removeAt path path state
 | .increment path amount=>updateParent path (incrementMember path amount) path state
 | .append path value=>updateParent path (appendMember path value) path state

def applyOperations (state:Value) : List PatchOperation→Except RunStoreError Value
 | []=>.ok state
 | operation::operations=>do
  let next ← applyOperation state operation
  applyOperations next operations

def recordWithStatus (current:RunRecord) (status:RunStatus) : Except RunStoreError RunRecord :=
 if current.status.isTerminal then .error (.statusAfterTerminal current.runId current.status)
 else .ok { current with status:=status }

def ensureRevision (current:RunRecord) : Option ℕ→Except RunStoreError Unit
 | some expected=>
  ensure (current.stateRevision==expected)
   (.stateConflict current.runId expected current.stateRevision)
 | none=>.ok ()

/-- The `u64` revision counts the patches from 0 and does not reach its bound. -/
def recordWithStatePatch (current:RunRecord) (patch:StatePatch) :
  Except RunStoreError RunRecord := do
 ensure (!current.status.isTerminal) (.statePatchAfterTerminal current.runId current.status)
 ensureRevision current patch.expectedRevision
 let next ← applyOperations current.state patch.operations
 .ok { current with state:=next,stateRevision:=current.stateRevision+1 }

def recordWithModelVisibleTools (current:RunRecord) (tools:List ModelVisibleToolRef) :
  Except RunStoreError RunRecord :=
 if current.status.isTerminal then
  .error (.invocationProvenanceAfterTerminal current.runId current.status)
 else .ok { current with modelVisibleTools:=sortedModelVisibleTools tools }

inductive CallbackDeliveryRunAction where
 | pauseRun (runId subscriptionId deliveryId reason:String)
 | failRun (runId subscriptionId deliveryId reason:String)

inductive RunWaitReasonKind where
 | input | approval | review | callback | budget | callbackDelivery | policy | operator

structure RunWaitReason where
 kind:RunWaitReasonKind
 nodeId:Option String
 operationId:Option String
 message:Option String

/-- `RunWaitReason::message`, behind every reason but the one of a callback. -/
def RunWaitReason.ofMessage (kind:RunWaitReasonKind) (message:String) :
  Except RunStoreError RunWaitReason := do
 ensure (!isBlank message) (.emptyField "message")
 .ok ⟨kind,none,none,some message⟩

def RunWaitReason.callbackDelivery (deliveryId:String) : Except RunStoreError RunWaitReason :=
 RunWaitReason.ofMessage .callbackDelivery deliveryId

structure CallbackDeliveryRunUpdate where
 run:RunRecord
 waitReason:RunWaitReason
 subscriptionId:String
 deliveryReason:String

def CallbackDeliveryRunAction.parts :
  CallbackDeliveryRunAction→String×RunStatus×String×String×String
 | .pauseRun runId subscriptionId deliveryId reason=>
  (runId,.pausedCallbackDelivery,subscriptionId,deliveryId,reason)
 | .failRun runId subscriptionId deliveryId reason=>(runId,.failed,subscriptionId,deliveryId,reason)

def callbackDeliveryRunActionParts (action:CallbackDeliveryRunAction) :
  Except RunStoreError (String×RunStatus×RunWaitReason×String×String) :=
 let (runId,status,subscriptionId,deliveryId,reason):=action.parts
 do
  ensure (!isBlank runId) (.emptyField "run_id")
  ensure (!isBlank subscriptionId) (.emptyField "subscription_id")
  ensure (!isBlank reason) (.emptyField "reason")
  let waitReason ← RunWaitReason.callbackDelivery deliveryId
  .ok (runId,status,waitReason,subscriptionId,reason)

def validateLeaseRequest (runId owner:String) (acquiredAt expiresAt:ℕ) :
  Except RunStoreError Unit := do
 ensure (!isBlank runId) (.emptyField "run_id")
 ensure (!isBlank owner) (.emptyField "owner")
 ensure (decide (acquiredAt<expiresAt))
  (.invalidRunOwnershipLease runId "lease expiration must be after acquisition")

/-- `n.saturating_add(1)` on `u64`. -/
def saturatingSucc (n:ℕ) : ℕ := if n+1<u64Limit then n+1 else u64Limit-1

def leaseIdOf (runId:String) (fencingEpoch:ℕ) : String := runId ++ ":" ++ toString fencingEpoch

def ensureUnleased (runId:String) (acquiredAt:ℕ) :
  Option RunOwnershipLease→Except RunStoreError Unit
 | some current=>
  ensure (decide (current.expiresAtUnixMs≤acquiredAt))
   (.runOwnershipLeaseActive runId current.owner current.expiresAtUnixMs)
 | none=>.ok ()

def acquireRunOwnershipLease (runId owner:String) (acquiredAt expiresAt:ℕ)
  (current:Option RunOwnershipLease) : Except RunStoreError RunOwnershipLease := do
 validateLeaseRequest runId owner acquiredAt expiresAt
 ensureUnleased runId acquiredAt current
 let fencingEpoch:=(current.map fun lease=>saturatingSucc lease.fencingEpoch).getD 1
 .ok ⟨runId,leaseIdOf runId fencingEpoch,owner,fencingEpoch,acquiredAt,expiresAt⟩

def validateLeaseRenewalRequest (runId owner:String) (now expiresAt:ℕ) :
  Except RunStoreError Unit := do
 ensure (!isBlank runId) (.emptyField "run_id")
 ensure (!isBlank owner) (.emptyField "owner")
 ensure (decide (now<expiresAt))
  (.invalidRunOwnershipLease runId "lease expiration must be after renewal")

/-- What a caller presents of its lease. -/
structure LeaseProof where
 owner:String
 leaseId:String
 fencingEpoch:ℕ
 nowUnixMs:ℕ

def LeaseProof.attempted (proof:LeaseProof) : RunOwnershipLeaseIdentity :=
 ⟨proof.owner,proof.leaseId,proof.fencingEpoch⟩

def validateRunOwnershipLease (runId:String) (proof:LeaseProof) (current:RunOwnershipLease) :
  Except RunStoreError Unit := do
 ensure (current.owner==proof.owner&&current.leaseId==proof.leaseId &&
   current.fencingEpoch==proof.fencingEpoch)
  (.runOwnershipLeaseMismatch runId (.fromLease current) proof.attempted)
 ensure (decide (current.acquiredAtUnixMs≤proof.nowUnixMs))
  (.invalidRunOwnershipLease runId "lease is not active before acquisition")
 ensure (current.isActiveAt proof.nowUnixMs)
  (.runOwnershipLeaseExpired runId proof.leaseId current.expiresAtUnixMs proof.nowUnixMs)

def renewRunOwnershipLease (runId:String) (proof:LeaseProof) (expiresAt:ℕ)
  (current:RunOwnershipLease) : Except RunStoreError RunOwnershipLease := do
 validateLeaseRenewalRequest runId proof.owner proof.nowUnixMs expiresAt
 validateRunOwnershipLease runId proof current
 ensure (decide (current.expiresAtUnixMs<expiresAt))
  (.invalidRunOwnershipLease runId "lease renewal must extend active lease")
 .ok { current with expiresAtUnixMs:=expiresAt }

def unleasedMismatch (runId:String) (proof:LeaseProof) : RunStoreError :=
 .runOwnershipLeaseMismatch runId ⟨"","",0⟩ proof.attempted

/-- The arguments of `create_run_with_optional_run_id_invocation_provenance_and_mode`. -/
structure RunRequest where
 requestedRunId:Option String
 graphHash:String
 inputs:Value
 invocationMode:RunInvocationMode
 deploymentProvenance:RunDeploymentProvenance
 modelVisibleTools:List ModelVisibleToolRef

def createRunWithInvocationProvenanceAndMode (graphHash:String) (inputs:Value)
  (mode:RunInvocationMode) (provenance:RunDeploymentProvenance)
  (tools:List ModelVisibleToolRef) : RunRequest :=
 ⟨none,graphHash,inputs,mode,provenance,tools⟩

def createRunWithProvenance (graphHash:String) (inputs:Value)
  (provenance:RunDeploymentProvenance) : RunRequest :=
 createRunWithInvocationProvenanceAndMode graphHash inputs .sync provenance []

def createRun (graphHash:String) (inputs:Value) : RunRequest :=
 createRunWithProvenance graphHash inputs .new

def RunRequest.record (request:RunRequest) (runId:String) (sequence:ℕ) : RunRecord where
 runId
 sequence
 graphHash:=request.graphHash
 invocationMode:=request.invocationMode
 inputs:=request.inputs
 deploymentProvenance:=request.deploymentProvenance
 modelVisibleTools:=sortedModelVisibleTools request.modelVisibleTools
 status:=.created
 state:=.object []
 stateRevision:=0

def runIdOf (sequence:ℕ) : String := "run-" ++ zeroPadded 6 sequence

inductive Call where
 | createRun (request:RunRequest)
 | getRun (runId:String)
 | setStatus (runId:String) (status:RunStatus)
 | applyCallbackDeliveryRunAction (action:CallbackDeliveryRunAction)
 | setStatusWithOwnershipLease (runId:String) (status:RunStatus) (proof:LeaseProof)
 | recordModelVisibleTools (runId:String) (tools:List ModelVisibleToolRef)
 | patchState (runId:String) (patch:StatePatch)
 | patchStateWithOwnershipLease (runId:String) (patch:StatePatch) (proof:LeaseProof)
 | acquireOwnershipLease (runId owner:String) (acquiredAtUnixMs expiresAtUnixMs:ℕ)
 | renewOwnershipLease (runId:String) (proof:LeaseProof) (expiresAtUnixMs:ℕ)
 | validateOwnershipLease (runId:String) (proof:LeaseProof)

inductive Response where
 | record (record:RunRecord)
 | update (update:CallbackDeliveryRunUpdate)
 | lease (lease:RunOwnershipLease)
 | valid

structure InMemoryRunStore where
 runs:StringMap RunRecord
 ownershipLeases:StringMap RunOwnershipLease
 nextSequence:ℕ

namespace InMemoryRunStore

def new : InMemoryRunStore := ⟨∅,∅,1⟩

/-- The loop over generated run ids, with the sequence it stops at and the one after it. `rounds`
is the number of `u64` sequences not yet tried. -/
def generatedRunId (taken:String→Bool) : ℕ→ℕ→Except RunStoreError (ℕ×ℕ)
 | 0, _=>.error .sequenceExhausted
 | rounds+1, sequence=>
  match checkedSucc sequence with
  | none=>.error .sequenceExhausted
  | some next=>if taken (runIdOf sequence) then generatedRunId taken rounds next
    else .ok (sequence,next)

def runIdentity (s:InMemoryRunStore) : Option String→Except RunStoreError (String×ℕ×ℕ)
 | some requested=>do
  ensure (trim requested != "") (.emptyField "run_id")
  ensure (!s.runs.contains (trim requested)) (.alreadyExists (trim requested))
  match checkedSucc s.nextSequence with
  | none=>.error .sequenceExhausted
  | some next=>.ok (trim requested,s.nextSequence,next)
 | none=>do
  let (sequence,next) ←
   generatedRunId s.runs.contains (u64Limit-s.nextSequence) s.nextSequence
  .ok (runIdOf sequence,sequence,next)

def createRunWithOptionalRunIdInvocationProvenanceAndMode (s:InMemoryRunStore)
  (request:RunRequest) : Except RunStoreError (RunRecord×InMemoryRunStore) := do
 let (runId,sequence,next) ← s.runIdentity request.requestedRunId
 let record:=request.record runId sequence
 .ok (record,{ s with runs:=s.runs.insert runId record,nextSequence:=next })

def getRun (s:InMemoryRunStore) (runId:String) : Except RunStoreError RunRecord :=
 match s.runs[runId]? with
 | none=>.error (.notFound runId)
 | some record=>.ok record

/-- The body shared by the record mutations: read, compute the updated record, store it. -/
def updateRun (s:InMemoryRunStore) (runId:String)
  (update:RunRecord→Except RunStoreError RunRecord) :
  Except RunStoreError (RunRecord×InMemoryRunStore) := do
 let current ← s.getRun runId
 let updated ← update current
 .ok (updated,{ s with runs:=s.runs.insert runId updated })

def setStatus (s:InMemoryRunStore) (runId:String) (status:RunStatus) :
  Except RunStoreError (RunRecord×InMemoryRunStore) :=
 s.updateRun runId (recordWithStatus · status)

def recordModelVisibleTools (s:InMemoryRunStore) (runId:String)
  (tools:List ModelVisibleToolRef) : Except RunStoreError (RunRecord×InMemoryRunStore) :=
 s.updateRun runId (recordWithModelVisibleTools · tools)

def patchState (s:InMemoryRunStore) (runId:String) (patch:StatePatch) :
  Except RunStoreError (RunRecord×InMemoryRunStore) :=
 s.updateRun runId (recordWithStatePatch · patch)

def applyCallbackDeliveryRunAction (s:InMemoryRunStore) (action:CallbackDeliveryRunAction) :
  Except RunStoreError (CallbackDeliveryRunUpdate×InMemoryRunStore) := do
 let (runId,status,waitReason,subscriptionId,reason) ← callbackDeliveryRunActionParts action
 let (run,s) ← s.setStatus runId status
 .ok (⟨run,waitReason,subscriptionId,reason⟩,s)

def currentLease (s:InMemoryRunStore) (runId:String) (proof:LeaseProof) :
  Except RunStoreError RunOwnershipLease := do
 let _ ← s.getRun runId
 match s.ownershipLeases[runId]? with
 | none=>.error (unleasedMismatch runId proof)
 | some current=>.ok current

def validateOwnershipLease (s:InMemoryRunStore) (runId:String) (proof:LeaseProof) :
  Except RunStoreError Unit := do
 let current ← s.currentLease runId proof
 validateRunOwnershipLease runId proof current

def setStatusWithOwnershipLease (s:InMemoryRunStore) (runId:String) (status:RunStatus)
  (proof:LeaseProof) : Except RunStoreError (RunRecord×InMemoryRunStore) := do
 s.validateOwnershipLease runId proof
 s.setStatus runId status

def patchStateWithOwnershipLease (s:InMemoryRunStore) (runId:String) (patch:StatePatch)
  (proof:LeaseProof) : Except RunStoreError (RunRecord×InMemoryRunStore) := do
 s.validateOwnershipLease runId proof
 s.patchState runId patch

def acquireOwnershipLease (s:InMemoryRunStore) (runId owner:String)
  (acquiredAt expiresAt:ℕ) : Except RunStoreError (RunOwnershipLease×InMemoryRunStore) := do
 let _ ← s.getRun runId
 let lease ← acquireRunOwnershipLease runId owner acquiredAt expiresAt s.ownershipLeases[runId]?
 .ok (lease,{ s with ownershipLeases:=s.ownershipLeases.insert runId lease })

def renewOwnershipLease (s:InMemoryRunStore) (runId:String) (proof:LeaseProof)
  (expiresAt:ℕ) : Except RunStoreError (RunOwnershipLease×InMemoryRunStore) := do
 let current ← s.currentLease runId proof
 let renewed ← renewRunOwnershipLease runId proof expiresAt current
 .ok (renewed,{ s with ownershipLeases:=s.ownershipLeases.insert runId renewed })

end InMemoryRunStore

/-- The answer of a call: its response and the next state. -/
abbrev Outcome (σ:Type) := Except RunStoreError (Response×σ)

def answer {σ α:Type} (response:α→Response) (result:Except RunStoreError (α×σ)) : Outcome σ :=
 result.map fun p=>(response p.1,p.2)

namespace InMemoryRunStore

def perform (s:InMemoryRunStore) : Call→Outcome InMemoryRunStore
 | .createRun request=>
  answer .record (s.createRunWithOptionalRunIdInvocationProvenanceAndMode request)
 | .getRun runId=>(s.getRun runId).map fun record=>(.record record,s)
 | .setStatus runId status=>answer .record (s.setStatus runId status)
 | .applyCallbackDeliveryRunAction action=>answer .update (s.applyCallbackDeliveryRunAction action)
 | .setStatusWithOwnershipLease runId status proof=>
  answer .record (s.setStatusWithOwnershipLease runId status proof)
 | .recordModelVisibleTools runId tools=>answer .record (s.recordModelVisibleTools runId tools)
 | .patchState runId patch=>answer .record (s.patchState runId patch)
 | .patchStateWithOwnershipLease runId patch proof=>
  answer .record (s.patchStateWithOwnershipLease runId patch proof)
 | .acquireOwnershipLease runId owner acquiredAt expiresAt=>
  answer .lease (s.acquireOwnershipLease runId owner acquiredAt expiresAt)
 | .renewOwnershipLease runId proof expiresAt=>
  answer .lease (s.renewOwnershipLease runId proof expiresAt)
 | .validateOwnershipLease runId proof=>(s.validateOwnershipLease runId proof).map fun _=>(.valid,s)

end InMemoryRunStore

/-- One call as a total step: a failed call leaves the state as it was. -/
def settle {σ:Type} (s:σ) : Outcome σ→Except RunStoreError Response×σ
 | .ok (response,s')=>(.ok response,s')
 | .error e=>(.error e,s)

def InMemoryRunStore.step (s:InMemoryRunStore) (call:Call) :
  Except RunStoreError Response×InMemoryRunStore :=
 settle s (s.perform call)

end GraphBlocks.RunStore
