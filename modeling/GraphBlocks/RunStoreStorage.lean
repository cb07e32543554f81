import GraphBlocks.RunStoreModel
import GraphBlocks.SqlTables

/-! `SqliteRunStore` of the runtime core: a table of runs, numbered by a sequence and unique by
run id, and a table of leases keyed by run id. -/
namespace GraphBlocks.RunStore
open Json RustStd Usage CanonicalJson StoredJson Sql

def RunInvocationMode.asStr : RunInvocationMode→String
 | .sync=>"sync"
 | .accepted=>"accepted"
 | .background=>"background"

def RunInvocationMode.fromStr : String→Option RunInvocationMode
 | "sync"=>some .sync
 | "accepted"=>some .accepted
 | "background"=>some .background
 | _=>none

def RunStatus.asStr : RunStatus→String
 | .created=>"created"
 | .validating=>"validating"
 | .admissionPending=>"admission_pending"
 | .admitted=>"admitted"
 | .queued=>"queued"
 | .running=>"running"
 | .waitingInput=>"waiting_input"
 | .waitingApproval=>"waiting_approval"
 | .waitingReview=>"waiting_review"
 | .waitingCallback=>"waiting_callback"
 | .paused=>"paused"
 | .pausedBudget=>"paused_budget"
 | .pausedCallbackDelivery=>"paused_callback_delivery"
 | .pausedPolicy=>"paused_policy"
 | .pausedOperator=>"paused_operator"
 | .interrupted=>"interrupted"
 | .resuming=>"resuming"
 | .completed=>"completed"
 | .failed=>"failed"
 | .cancelled=>"cancelled"
 | .expired=>"expired"
 | .policyStopped=>"policy_stopped"

def RunStatus.fromStatusStr : String→Option RunStatus
 | "created"=>some .created
 | "validating"=>some .validating
 | "admission_pending"=>some .admissionPending
 | "admitted"=>some .admitted
 | "queued"=>some .queued
 | "running"=>some .running
 | "waiting_input"=>some .waitingInput
 | "waiting_approval"=>some .waitingApproval
 | "waiting_review"=>some .waitingReview
 | "waiting_callback"=>some .waitingCallback
 | "paused"=>some .paused
 | "paused_budget"=>some .pausedBudget
 | "paused_callback_delivery"=>some .pausedCallbackDelivery
 | "paused_policy"=>some .pausedPolicy
 | "paused_operator"=>some .pausedOperator
 | "interrupted"=>some .interrupted
 | "resuming"=>some .resuming
 | "completed"=>some .completed
 | "failed"=>some .failed
 | "cancelled"=>some .cancelled
 | "expired"=>some .expired
 | "policy_stopped"=>some .policyStopped
 | _=>none

def sqliteU64ToI64 (value:ℕ) (label:String) : Except RunStoreError ℤ :=
 if (value:ℤ) ≤ i64Max then .ok value else .error (.storage (.exceedsIntegerRange label))

def sqliteI64ToU64 (value:ℤ) (label:String) : Except RunStoreError ℕ :=
 if 0≤value then .ok value.toNat else .error (.storage (.negative label))

def runStorageErrors : StorageErrors RunStoreError where
 json message:=.storage (.json message)
 malformed message:=.storage (.malformed message)
 member what key:=.storage (.invalidMember what key)

def optionalStringValue : Option String→Value
 | none=>.null
 | some text=>.string text

def RunDeploymentProvenance.members (p:RunDeploymentProvenance) : StringMap Value :=
 ((((∅:StringMap Value).insert "release_digest" (optionalStringValue p.releaseDigest)).insert
  "deployment_revision_id" (optionalStringValue p.deploymentRevisionId)).insert
  "physical_plan_hash" (optionalStringValue p.physicalPlanHash)).insert
  "release_signature_digest" (optionalStringValue p.releaseSignatureDigest)

def RunDeploymentProvenance.canonicalValue (p:RunDeploymentProvenance) : Value := toObject p.members

def optionalString (object:StringMap Value) (key:String) : Except RunStoreError (Option String) :=
 match object[key]? with
 | none=>.ok none
 | some .null=>.ok none
 | some (.string value)=>.ok (some value)
 | some _=>.error (.storage (.invalidMember "stored deployment provenance" key))

def deploymentProvenanceFromValue : Value→Except RunStoreError RunDeploymentProvenance
 | .object members=>do
  let releaseDigest ← optionalString (objectMap members) "release_digest"
  let deploymentRevisionId ← optionalString (objectMap members) "deployment_revision_id"
  let physicalPlanHash ← optionalString (objectMap members) "physical_plan_hash"
  let releaseSignatureDigest ← optionalString (objectMap members) "release_signature_digest"
  .ok ⟨releaseDigest,deploymentRevisionId,physicalPlanHash,releaseSignatureDigest⟩
 | _=>.error (.storage (.malformed "stored deployment provenance must be an object"))

def optionalU64Value : Option ℕ→Value
 | none=>.null
 | some n=>.number (intToken n)

def ModelVisibleToolRef.members (tool:ModelVisibleToolRef) : StringMap Value :=
 (((((((∅:StringMap Value).insert "tool_name" (.string tool.toolName)).insert
  "resolved_tool_id" (.string tool.resolvedToolId)).insert
  "definition_digest" (.string tool.definitionDigest)).insert
  "binding_digest" (.string tool.bindingDigest)).insert
  "effective_policy_snapshot_id" (.string tool.effectivePolicySnapshotId)).insert
  "allowed_for_principal" (.bool tool.allowedForPrincipal)).insert
  "valid_until_unix_ms" (optionalU64Value tool.validUntilUnixMs)

def modelVisibleToolsValue (tools:List ModelVisibleToolRef) : Value :=
 .array (tools.map fun tool=>toObject tool.members)

def requiredStorageString (object:StringMap Value) (key:String) : Except RunStoreError String :=
 match object[key]?.bind asString with
 | some value=>.ok value
 | none=>.error (.storage (.invalidMember "stored model-visible tool provenance" key))

def asBool : Value→Option Bool
 | .bool b=>some b
 | _=>none

def validUntilFromStorage (object:StringMap Value) : Except RunStoreError (Option ℕ) :=
 match object["valid_until_unix_ms"]? with
 | none=>.ok none
 | some .null=>.ok none
 | some value=>
  match asU64 value with
  | some n=>.ok (some n)
  | none=>
   .error (.storage (.invalidMember "stored model-visible tool provenance" "valid_until_unix_ms"))

def allowedFromStorage (object:StringMap Value) : Except RunStoreError Bool :=
 match object["allowed_for_principal"]?.bind asBool with
 | some allowed=>.ok allowed
 | none=>
  .error (.storage (.invalidMember "stored model-visible tool provenance" "allowed_for_principal"))

def toolFromValue : Value→Except RunStoreError ModelVisibleToolRef
 | .object members=>do
  let object:=objectMap members
  let validUntilUnixMs ← validUntilFromStorage object
  let toolName ← requiredStorageString object "tool_name"
  let resolvedToolId ← requiredStorageString object "resolved_tool_id"
  let definitionDigest ← requiredStorageString object "definition_digest"
  let bindingDigest ← requiredStorageString object "binding_digest"
  let effectivePolicySnapshotId ← requiredStorageString object "effective_policy_snapshot_id"
  let allowedForPrincipal ← allowedFromStorage object
  .ok ⟨toolName,resolvedToolId,definitionDigest,bindingDigest,effectivePolicySnapshotId,
   allowedForPrincipal,validUntilUnixMs⟩
 | _=>.error (.storage (.malformed
   "stored model-visible tool provenance must be an array of objects"))

def modelVisibleToolsFromValue : Value→Except RunStoreError (List ModelVisibleToolRef)
 | .array items=>do
  let tools ← collect toolFromValue items
  .ok (sortedModelVisibleTools tools)
 | _=>.ok []

structure RunRow where
 sequence:ℤ
 runId:String
 graphHash:String
 invocationMode:String
 inputsJson:String
 deploymentProvenanceJson:String
 modelVisibleToolsJson:String
 status:String
 stateJson:String
 stateRevision:ℤ

structure LeaseRow where
 runId:String
 leaseId:String
 owner:String
 fencingEpoch:ℤ
 acquiredAtUnixMs:ℤ
 expiresAtUnixMs:ℤ

structure SqliteRunStore where
 runs:List RunRow
 runOwnershipLeases:List LeaseRow

namespace SqliteRunStore

def openInMemory : SqliteRunStore := ⟨[],[]⟩

section
variable {d:StringDisplay} (reader:JsonReader d)

def parseStorageJson (text:String) : Except RunStoreError Value :=
 fromStr runStorageErrors reader text

def invocationModeFromStorage (text:String) : Except RunStoreError RunInvocationMode :=
 match RunInvocationMode.fromStr text with
 | some mode=>.ok mode
 | none=>.error (.storage (.unknownText "run invocation mode" text))

def statusFromStorage (text:String) : Except RunStoreError RunStatus :=
 match RunStatus.fromStatusStr text with
 | some status=>.ok status
 | none=>.error (.storage (.unknownText "run status" text))

def recordFromStorage (row:RunRow) : Except RunStoreError RunRecord := do
 let invocationMode ← invocationModeFromStorage row.invocationMode
 let status ← statusFromStorage row.status
 let sequence ← sqliteI64ToU64 row.sequence "run sequence"
 let inputs ← parseStorageJson reader row.inputsJson
 let provenanceValue ← parseStorageJson reader row.deploymentProvenanceJson
 let deploymentProvenance ← deploymentProvenanceFromValue provenanceValue
 let toolsValue ← parseStorageJson reader row.modelVisibleToolsJson
 let modelVisibleTools ← modelVisibleToolsFromValue toolsValue
 let state ← parseStorageJson reader row.stateJson
 let stateRevision ← sqliteI64ToU64 row.stateRevision "state revision"
 .ok { runId:=row.runId,sequence,graphHash:=row.graphHash,invocationMode,inputs,
       deploymentProvenance,modelVisibleTools,status,state,stateRevision }

def getRun (db:SqliteRunStore) (runId:String) : Except RunStoreError RunRecord :=
 match selectKey RunRow.runId db.runs runId with
 | none=>.error (.notFound runId)
 | some row=>recordFromStorage reader row

def ensureExact (field value:String) : Except RunStoreError Unit :=
 ensure (value != "" && value==trim value) (.storage (.notExactString field))

def validateStoredRunOwnershipLease (lease:RunOwnershipLease) : Except RunStoreError Unit := do
 ensureExact "run_id" lease.runId
 ensureExact "lease_id" lease.leaseId
 ensureExact "owner" lease.owner
 ensure (lease.fencingEpoch != 0) (.storage .epochNotPositive)
 ensure (lease.leaseId==leaseIdOf lease.runId lease.fencingEpoch)
  (.storage (.leaseIdMismatch lease.leaseId (leaseIdOf lease.runId lease.fencingEpoch)))
 ensure (decide (lease.acquiredAtUnixMs<lease.expiresAtUnixMs))
  (.storage .expirationNotAfterAcquisition)

def leaseFromStorage (row:LeaseRow) : Except RunStoreError RunOwnershipLease := do
 let fencingEpoch ← sqliteI64ToU64 row.fencingEpoch "run ownership fencing epoch"
 let acquiredAtUnixMs ← sqliteI64ToU64 row.acquiredAtUnixMs "run ownership acquired_at"
 let expiresAtUnixMs ← sqliteI64ToU64 row.expiresAtUnixMs "run ownership expires_at"
 let lease : RunOwnershipLease:=
  ⟨row.runId,row.leaseId,row.owner,fencingEpoch,acquiredAtUnixMs,expiresAtUnixMs⟩
 validateStoredRunOwnershipLease lease
 .ok lease

def sqliteLoadRunOwnershipLease (db:SqliteRunStore) (runId:String) :
  Except RunStoreError (Option RunOwnershipLease) :=
 match selectKey LeaseRow.runId db.runOwnershipLeases runId with
 | none=>.ok none
 | some row=>(leaseFromStorage row).map some

def currentLease (db:SqliteRunStore) (runId:String) (proof:LeaseProof) :
  Except RunStoreError RunOwnershipLease := do
 match ← db.sqliteLoadRunOwnershipLease runId with
 | none=>.error (unleasedMismatch runId proof)
 | some current=>.ok current

/-- Past the last integer the sum is a float, which is not read as an `i64`. -/
def nextRunSequence (db:SqliteRunStore) : Except RunStoreError ℕ :=
 if nextOf RunRow.sequence db.runs ≤ i64Max then
  sqliteI64ToU64 (nextOf RunRow.sequence db.runs) "run sequence"
 else .error (.storage .notAnInteger)

def runExists (db:SqliteRunStore) (runId:String) : Bool :=
 (selectKey RunRow.runId db.runs runId).isSome

/-- The loop over candidate ids. `rounds` is the number of `u64` sequences not yet tried; after
the last one the addition overflows. -/
def candidateSequence (taken:String→Bool) : ℕ→ℕ→Except RunStoreError ℕ
 | 0, _=>.error (.storage .notAnInteger)
 | rounds+1, sequence=>
  if taken (runIdOf sequence) then candidateSequence taken rounds (sequence+1)
  else .ok sequence

def runIdentity (db:SqliteRunStore) (sequence:ℕ) : Option String→Except RunStoreError (String×ℕ)
 | some requested=>do
  ensure (trim requested != "") (.emptyField "run_id")
  ensure (!db.runExists (trim requested)) (.alreadyExists (trim requested))
  .ok (trim requested,sequence)
 | none=>do
  let found ← candidateSequence db.runExists (u64Limit-sequence) sequence
  .ok (runIdOf found,found)

def runParams (d:StringDisplay) (record:RunRecord) : Except RunStoreError RunRow := do
 let sequence ← sqliteU64ToI64 record.sequence "run sequence"
 let stateRevision ← sqliteU64ToI64 record.stateRevision "state revision"
 .ok { sequence,runId:=record.runId,graphHash:=record.graphHash
       invocationMode:=record.invocationMode.asStr,inputsJson:=toText d record.inputs
       deploymentProvenanceJson:=toText d record.deploymentProvenance.canonicalValue
       modelVisibleToolsJson:=toText d (modelVisibleToolsValue record.modelVisibleTools)
       status:=record.status.asStr,stateJson:=toText d record.state,stateRevision }

def insertRun (db:SqliteRunStore) (row:RunRow) : Except RunStoreError SqliteRunStore :=
 if db.runs.any fun r=>r.sequence==row.sequence||r.runId==row.runId then
  .error (.storage .uniqueConstraint)
 else .ok { db with runs:=db.runs++[row] }

def createRunWithOptionalRunIdInvocationProvenanceAndMode (d:StringDisplay) (db:SqliteRunStore)
  (request:RunRequest) : Except RunStoreError (RunRecord×SqliteRunStore) := do
 let nextSequence ← db.nextRunSequence
 let (runId,sequence) ← db.runIdentity nextSequence request.requestedRunId
 let record:=request.record runId sequence
 let row ← runParams d record
 let db ← db.insertRun row
 .ok (record,db)

def requireSingleRunUpdate (updatedRows:ℕ) (runId:String) : Except RunStoreError Unit :=
 ensure (updatedRows==1) (.storage (.updatedRows runId updatedRows))

/-- Runs an `UPDATE runs` statement that has to match one row. -/
def updateRuns (db:SqliteRunStore) (updated:RunRecord) (condition:RunRow→Bool)
  (set:RunRow→RunRow) : Except RunStoreError (RunRecord×SqliteRunStore) := do
 let (runs,updatedRows):=updateWhere condition set db.runs
 requireSingleRunUpdate updatedRows updated.runId
 .ok (updated,{ db with runs })

def writeStatus (db:SqliteRunStore) (current updated:RunRecord) :
  Except RunStoreError (RunRecord×SqliteRunStore) :=
 db.updateRuns updated
  (fun row=>row.runId==updated.runId&&row.status==current.status.asStr)
  (fun row=>{ row with status:=updated.status.asStr })

def writeTools (d:StringDisplay) (db:SqliteRunStore) (current updated:RunRecord) :
  Except RunStoreError (RunRecord×SqliteRunStore) :=
 db.updateRuns updated
  (fun row=>row.runId==updated.runId&&row.status==current.status.asStr)
  (fun row=>{ row with
   modelVisibleToolsJson:=toText d (modelVisibleToolsValue updated.modelVisibleTools) })

def writeState (d:StringDisplay) (db:SqliteRunStore) (current updated:RunRecord) :
  Except RunStoreError (RunRecord×SqliteRunStore) := do
 let nextRevision ← sqliteU64ToI64 updated.stateRevision "state revision"
 let currentRevision ← sqliteU64ToI64 current.stateRevision "state revision"
 db.updateRuns updated
  (fun row=>row.runId==updated.runId&&row.stateRevision==currentRevision &&
   row.status==current.status.asStr)
  (fun row=>{ row with stateJson:=toText d updated.state,stateRevision:=nextRevision })

def setStatus (db:SqliteRunStore) (runId:String) (status:RunStatus) :
  Except RunStoreError (RunRecord×SqliteRunStore) := do
 let current ← db.getRun reader runId
 let updated ← recordWithStatus current status
 db.writeStatus current updated

def recordModelVisibleTools (db:SqliteRunStore) (runId:String)
  (tools:List ModelVisibleToolRef) : Except RunStoreError (RunRecord×SqliteRunStore) := do
 let current ← db.getRun reader runId
 let updated ← recordWithModelVisibleTools current tools
 db.writeTools d current updated

def patchState (db:SqliteRunStore) (runId:String) (patch:StatePatch) :
  Except RunStoreError (RunRecord×SqliteRunStore) := do
 let current ← db.getRun reader runId
 let updated ← recordWithStatePatch current patch
 db.writeState d current updated

def applyCallbackDeliveryRunAction (db:SqliteRunStore) (action:CallbackDeliveryRunAction) :
  Except RunStoreError (CallbackDeliveryRunUpdate×SqliteRunStore) := do
 let (runId,status,waitReason,subscriptionId,reason) ← callbackDeliveryRunActionParts action
 let (run,db) ← db.setStatus reader runId status
 .ok (⟨run,waitReason,subscriptionId,reason⟩,db)

def setStatusWithOwnershipLease (db:SqliteRunStore) (runId:String) (status:RunStatus)
  (proof:LeaseProof) : Except RunStoreError (RunRecord×SqliteRunStore) := do
 let currentLease ← db.currentLease runId proof
 validateRunOwnershipLease runId proof currentLease
 db.setStatus reader runId status

def patchStateWithOwnershipLease (db:SqliteRunStore) (runId:String) (patch:StatePatch)
  (proof:LeaseProof) : Except RunStoreError (RunRecord×SqliteRunStore) := do
 let currentLease ← db.currentLease runId proof
 validateRunOwnershipLease runId proof currentLease
 db.patchState reader runId patch

def sqliteUpsertRunOwnershipLease (db:SqliteRunStore) (lease:RunOwnershipLease) :
  Except RunStoreError SqliteRunStore := do
 let fencingEpoch ← sqliteU64ToI64 lease.fencingEpoch "run ownership fencing epoch"
 let acquiredAtUnixMs ← sqliteU64ToI64 lease.acquiredAtUnixMs "run ownership acquired_at"
 let expiresAtUnixMs ← sqliteU64ToI64 lease.expiresAtUnixMs "run ownership expires_at"
 let row : LeaseRow:=
  ⟨lease.runId,lease.leaseId,lease.owner,fencingEpoch,acquiredAtUnixMs,expiresAtUnixMs⟩
 .ok { db with runOwnershipLeases:=upsert LeaseRow.runId row db.runOwnershipLeases }

def acquireOwnershipLease (db:SqliteRunStore) (runId owner:String)
  (acquiredAt expiresAt:ℕ) : Except RunStoreError (RunOwnershipLease×SqliteRunStore) := do
 let _ ← db.getRun reader runId
 let current ← db.sqliteLoadRunOwnershipLease runId
 let lease ← acquireRunOwnershipLease runId owner acquiredAt expiresAt current
 let db ← db.sqliteUpsertRunOwnershipLease lease
 .ok (lease,db)

def renewOwnershipLease (db:SqliteRunStore) (runId:String) (proof:LeaseProof)
  (expiresAt:ℕ) : Except RunStoreError (RunOwnershipLease×SqliteRunStore) := do
 let _ ← db.getRun reader runId
 let current ← db.currentLease runId proof
 let renewed ← renewRunOwnershipLease runId proof expiresAt current
 let db ← db.sqliteUpsertRunOwnershipLease renewed
 .ok (renewed,db)

def validateOwnershipLease (db:SqliteRunStore) (runId:String) (proof:LeaseProof) :
  Except RunStoreError Unit := do
 let _ ← db.getRun reader runId
 let current ← db.currentLease runId proof
 validateRunOwnershipLease runId proof current

def perform (db:SqliteRunStore) : Call→Outcome SqliteRunStore
 | .createRun request=>
  answer .record (db.createRunWithOptionalRunIdInvocationProvenanceAndMode d request)
 | .getRun runId=>(db.getRun reader runId).map fun record=>(.record record,db)
 | .setStatus runId status=>answer .record (db.setStatus reader runId status)
 | .applyCallbackDeliveryRunAction action=>
  answer .update (db.applyCallbackDeliveryRunAction reader action)
 | .setStatusWithOwnershipLease runId status proof=>
  answer .record (db.setStatusWithOwnershipLease reader runId status proof)
 | .recordModelVisibleTools runId tools=>
  answer .record (db.recordModelVisibleTools reader runId tools)
 | .patchState runId patch=>answer .record (db.patchState reader runId patch)
 | .patchStateWithOwnershipLease runId patch proof=>
  answer .record (db.patchStateWithOwnershipLease reader runId patch proof)
 | .acquireOwnershipLease runId owner acquiredAt expiresAt=>
  answer .lease (db.acquireOwnershipLease reader runId owner acquiredAt expiresAt)
 | .renewOwnershipLease runId proof expiresAt=>
  answer .lease (db.renewOwnershipLease reader runId proof expiresAt)
 | .validateOwnershipLease runId proof=>
  (db.validateOwnershipLease reader runId proof).map fun _=>(.valid,db)

def step (db:SqliteRunStore) (call:Call) : Except RunStoreError Response×SqliteRunStore :=
 settle db (perform reader db call)
end
end SqliteRunStore
end GraphBlocks.RunStore
